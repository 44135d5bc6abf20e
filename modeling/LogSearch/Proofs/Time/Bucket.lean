import LogSearch.Proofs.Time.Date
import LogSearch.Proofs.Time.Order

/-!
# Buckets of time

Outside leap seconds, the start of a bucket depends on nothing but the second that an instant lies
in, counted from the epoch: `Interval.startSecond` (`truncate?_eq_some`). Counted this way, a bucket
does not start after the instant (`startSecond_le`), and later instants have no earlier buckets
(`startSecond_mono`).
-/

namespace LogSearch

/-! ## Seconds since the epoch -/

namespace Instant

variable {t u : Instant}

theorem epochSeconds_div (t : Instant) : t.epochSeconds / (secondsPerDay : Nat) = t.day := by
  have hsecond := t.second_lt
  simp only [epochSeconds, secondsPerDay] at *
  omega

theorem epochSeconds_mono (h : t ≤ u) : t.epochSeconds ≤ u.epochSeconds := by
  have hnano := u.nano_lt
  rw [le_iff_rank] at h
  simp only [rank, epochSeconds, nanosPerSecond] at *
  omega

/-- Starts of seconds are told apart by their seconds. -/
theorem eq_of_epochSeconds (ht : t.nano = 0) (hu : u.nano = 0)
    (h : t.epochSeconds = u.epochSeconds) : t = u := by
  refine rank_injective ?_
  have hrank : ∀ v : Instant, v.nano = 0 →
      v.rank = v.epochSeconds * (2 * nanosPerSecond : Nat) := fun v hv => by
    rw [rank, hv, epochSeconds, Int.natCast_zero, Int.add_zero]
  rw [hrank t ht, hrank u hu, h]

/-- Starts of seconds are ordered by their seconds. -/
theorem epochSeconds_lt (ht : t.nano = 0) (hu : u.nano = 0) (h : compare t u = .lt) :
    t.epochSeconds < u.epochSeconds := by
  have hle : t ≤ u := cmp_ne_gt_iff.mp (by rw [show t.cmp u = .lt from h]; decide)
  refine lt_of_le_of_ne (epochSeconds_mono hle) fun heq => ?_
  rw [eq_of_epochSeconds ht hu heq, Std.ReflOrd.compare_self] at h
  cases h

/-- Milliseconds are cut to the second. -/
theorem epochMillis_div (ht : t.nano = 0) : t.epochMillis / 1000 = t.epochSeconds := by
  simp only [epochMillis, ht]
  omega

theorem ofParts?_eq_some {day : Int} {second nano : Nat} (h : ofParts? day second nano = some t) :
    t.day = day ∧ t.second = second ∧ t.nano = nano := by
  rw [ofParts?] at h
  split at h
  · obtain rfl := Option.some.inj h
    exact ⟨rfl, rfl, rfl⟩
  · cases h

theorem startOfDay?_eq_some {day : Int} (h : startOfDay? day = some t) :
    t.nano = 0 ∧ t.epochSeconds = day * secondsPerDay := by
  obtain ⟨hday, hsecond, hnano⟩ := ofParts?_eq_some h
  refine ⟨hnano, ?_⟩
  rw [epochSeconds, hday, hsecond, Int.natCast_zero, Int.add_zero]

/-- Whole days later or earlier, outside leap seconds. -/
theorem addDays?_eq_some {n : Int} (ht : t.isLeap = false) (h : t.addDays? n = some u) :
    u.day = t.day + n := by
  have hsecond := t.second_lt
  rw [addDays?, addSeconds?] at h
  split at h
  · obtain rfl := Option.some.inj h
    simp only [secondsPerDay] at *
    omega
  · simp only [ht, Bool.false_and, Bool.false_eq_true, if_false] at h
    rw [(ofParts?_eq_some h).1]
    simp only [secondsPerDay] at *
    omega

end Instant

/-! ## Months -/

theorem monthStart_succ (year : Int) {month : Nat} (h : 1 ≤ month) (h' : month ≤ 12) :
    monthStart year (month + 1) = monthStart year month + monthLength year month := by
  obtain ⟨i, rfl⟩ := Nat.exists_eq_add_of_le' h
  have hi : i < (monthLengths year).length := h'
  rw [monthStart_eq_sum, monthStart_eq_sum, monthLength, if_neg (Nat.succ_ne_zero i),
    Nat.add_sub_cancel, Nat.add_sub_cancel, List.take_add_one, List.sum_append,
    List.getD_eq_getElem?_getD, List.getElem?_eq_getElem hi]
  simp

/-- Within a year a later day lies in no earlier month. -/
theorem month_mono {day later : Int} (h : day ≤ later) (hyear : yearOf day = yearOf later) :
    (Date.ofNumber day).month ≤ (Date.ofNumber later).month := by
  obtain ⟨hy, hpos, _, _, _, hnumber⟩ := ofNumber_spec day
  obtain ⟨hy', hpos', htwelve', _, hlength', hnumber'⟩ := ofNumber_spec later
  rw [Date.number, hy] at hnumber
  rw [Date.number, hy', ← hyear] at hnumber'
  rw [← hyear] at hlength'
  refine Nat.not_lt.mp fun hlt => ?_
  -- the later day would lie before the month of the earlier one
  have hnext := monthStart_succ (yearOf day) hpos' htwelve'
  have hmonths := monthStart_le (yearOf day) (show _ + 1 ≤ (Date.ofNumber day).month from hlt)
  omega

namespace Interval

/-! ## Starts of buckets -/

/-- The first of some months: of the month, of its quarter or of its year. -/
def firstDay (first : Nat → Nat) (day : Int) : Int :=
  (⟨yearOf day, first (Date.ofNumber day).month, 1⟩ : Date).number

/-- The day that a bucket starts on. -/
def startDay (interval : Interval) (day : Int) : Int :=
  match interval with
  | .week => day - Date.daysSinceMonday day
  | .month => firstDay id day
  | .quarter => firstDay quarterMonth day
  | .year => firstDay (fun _ => 1) day
  | _ => day

/-- The second that a bucket starts at. -/
def startSecond (interval : Interval) (second : Int) : Int :=
  match interval with
  | .minute => second / 60 * 60
  | .hour => second / 3600 * 3600
  | interval => interval.startDay (second / secondsPerDay) * secondsPerDay

theorem firstDay_le {first : Nat → Nat} (h : ∀ month, 1 ≤ month → first month ≤ month)
    (day : Int) : firstDay first day ≤ day := by
  obtain ⟨hyear, hpos, _, _, _, hnumber⟩ := ofNumber_spec day
  have hmonths := monthStart_le (yearOf day) (h _ hpos)
  rw [Date.number, hyear] at hnumber
  rw [firstDay, number_first]
  omega

theorem firstDay_mono {first : Nat → Nat} (h : ∀ month, 1 ≤ month → first month ≤ month)
    (hmono : ∀ month later, month ≤ later → first month ≤ first later) {day later : Int}
    (hle : day ≤ later) : firstDay first day ≤ firstDay first later := by
  have hday := lt_yearStart_yearOf day
  have hlater := yearStart_yearOf later
  rcases lt_trichotomy (yearOf day) (yearOf later) with hlt | heq | hgt
  -- a later year begins after all buckets of an earlier one
  · have hfirst := firstDay_le h day
    have hyears := yearStart_le (show yearOf day + 1 ≤ yearOf later from hlt)
    have hstart : yearStart (yearOf later) ≤ firstDay first later := by
      rw [firstDay, number_first]
      omega
    omega
  · have hmonths := monthStart_le (yearOf later) (hmono _ _ (month_mono hle heq))
    rw [firstDay, firstDay, number_first, number_first, heq]
    omega
  · have hyears := yearStart_le (show yearOf later + 1 ≤ yearOf day from hgt)
    have hstart := yearStart_yearOf day
    have hend := lt_yearStart_yearOf later
    omega

theorem quarterMonth_mono (month later : Nat) (h : month ≤ later) :
    quarterMonth month ≤ quarterMonth later := by
  simp only [quarterMonth]
  omega

theorem startDay_le (interval : Interval) (day : Int) : interval.startDay day ≤ day := by
  cases interval with
  | week =>
    simp only [startDay]
    omega
  | month => exact firstDay_le (fun _ _ => Nat.le_refl _) day
  | quarter => exact firstDay_le (fun _ h => quarterMonth_le h) day
  | year => exact firstDay_le (fun _ h => h) day
  | _ => exact Int.le_refl day

theorem startDay_mono (interval : Interval) {day later : Int} (h : day ≤ later) :
    interval.startDay day ≤ interval.startDay later := by
  cases interval with
  | week =>
    simp only [startDay, Date.daysSinceMonday]
    omega
  | month => exact firstDay_mono (fun _ _ => Nat.le_refl _) (fun _ _ h => h) h
  | quarter => exact firstDay_mono (fun _ h => quarterMonth_le h) quarterMonth_mono h
  | year => exact firstDay_mono (fun _ h => h) (fun _ _ _ => Nat.le_refl _) h
  | _ => exact h

/-- **A bucket does not start after what lies in it.** -/
theorem startSecond_le (interval : Interval) (second : Int) :
    interval.startSecond second ≤ second := by
  have hday := interval.startDay_le (second / secondsPerDay)
  cases interval with
  | minute =>
    simp only [startSecond]
    omega
  | hour =>
    simp only [startSecond]
    omega
  | _ =>
    simp only [startSecond, secondsPerDay] at *
    omega

/-- **Later seconds have no earlier buckets.** -/
theorem startSecond_mono (interval : Interval) {second later : Int} (h : second ≤ later) :
    interval.startSecond second ≤ interval.startSecond later := by
  have hdays : second / (secondsPerDay : Nat) ≤ later / (secondsPerDay : Nat) :=
    Int.ediv_le_ediv (by decide) h
  have hday := interval.startDay_mono hdays
  cases interval with
  | minute =>
    simp only [startSecond]
    omega
  | hour =>
    simp only [startSecond]
    omega
  | _ =>
    simp only [startSecond, secondsPerDay] at *
    omega

/-- **What the start of a bucket is**: the start of a second, and outside leap seconds the one that
depends on the second of the instant. -/
theorem truncate?_eq_some {interval : Interval} {t start : Instant}
    (h : interval.truncate? t = some start) :
    start.nano = 0 ∧ ((interval = .week → t.isLeap = false) →
      start.epochSeconds = interval.startSecond t.epochSeconds) := by
  have hsecond := t.second_lt
  have hdiv := t.epochSeconds_div
  have hdate : ∀ date : Date, startOfDate? date = some start →
      start.nano = 0 ∧ start.epochSeconds = date.number * secondsPerDay :=
    fun date h => Instant.startOfDay?_eq_some h
  cases interval with
  | minute =>
    obtain rfl := Option.some.inj h
    refine ⟨rfl, fun _ => ?_⟩
    simp only [startSecond, Instant.epochSeconds, Instant.startOfMinute, secondsPerDay] at *
    omega
  | hour =>
    obtain rfl := Option.some.inj h
    refine ⟨rfl, fun _ => ?_⟩
    simp only [startSecond, Instant.epochSeconds, Instant.startOfHour, secondsPerDay] at *
    omega
  | day =>
    obtain rfl := Option.some.inj h
    refine ⟨rfl, fun _ => ?_⟩
    simp only [startSecond, startDay, hdiv]
    simp [Instant.epochSeconds, Instant.midnight]
  | week =>
    obtain ⟨monday, hmonday, rfl⟩ := Option.map_eq_some_iff.mp h
    refine ⟨rfl, fun hleap => ?_⟩
    simp only [startSecond, startDay, hdiv]
    simp [Instant.epochSeconds, Instant.midnight, Instant.addDays?_eq_some (hleap rfl) hmonday,
      Int.sub_eq_add_neg]
  | month =>
    simp only [startSecond, startDay, hdiv]
    exact (hdate _ h).imp_right fun heq _ => heq
  | quarter =>
    simp only [startSecond, startDay, hdiv]
    exact (hdate _ h).imp_right fun heq _ => heq
  | year =>
    simp only [startSecond, startDay, hdiv]
    exact (hdate _ h).imp_right fun heq _ => heq

end Interval

end LogSearch
