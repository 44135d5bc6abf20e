import LogSearch.Proofs.Time.Months
import LogSearch.Proofs.Time.Stamp
import LogSearch.Proofs.Time.Window

/-!
# Units before an instant

What "so many units before" means, apart from how it is computed: seconds are taken off the
nanoseconds since the epoch (`SecondsBefore`); months off the count of months, at the same time of
day and on the same day of the month, or on the last one if the month is too short (`MonthsBefore`).

Main statement: `TimeUnit.before?` finds the instant of the calendar that this describes, if there is
one (`TimeUnit.before?_eq_some_iff`).
-/

namespace LogSearch

/-! ## Seconds -/

namespace Instant

variable {t u now start : Instant}

/-- Nanoseconds since the epoch. An instant in a leap second has those of one in the second after
it. -/
def epochNanos (t : Instant) : Int := t.epochSeconds * nanosPerSecond + t.nano

theorem isLeap_iff : t.isLeap = true ↔ nanosPerSecond ≤ t.nano := decide_eq_true_iff

/-- Nanoseconds since the epoch tell instants apart, up to leap seconds. -/
theorem eq_of_epochNanos (h : t.epochNanos = u.epochNanos) (hleap : t.isLeap = u.isLeap) :
    t = u := by
  have ht := t.nano_lt
  have hu := u.nano_lt
  have hiff : nanosPerSecond ≤ t.nano ↔ nanosPerSecond ≤ u.nano := by
    rw [← isLeap_iff, ← isLeap_iff, hleap]
  refine rank_injective ?_
  rw [rank_eq_epochSeconds, rank_eq_epochSeconds]
  rw [epochNanos, epochNanos] at h
  rw [nanosPerSecond] at *
  omega

theorem ofEpoch?_eq_some_iff {second : Int} {nano : Nat} :
    ofEpoch? second nano = some u ↔ u.epochSeconds = second ∧ u.nano = nano := by
  have hlt := u.second_lt
  rw [ofEpoch?, epochSeconds]
  rw [secondsPerDay] at *
  constructor
  · intro h
    obtain ⟨hday, hsecond, hnano⟩ := ofParts?_eq_some h
    exact ⟨by omega, hnano⟩
  · rintro ⟨rfl, rfl⟩
    rw [← ofParts?_self u]
    congr 1 <;> omega

/-- Moving back, an instant counts with the second that its nanoseconds since the epoch lie in. -/
theorem addSeconds?_of_neg {n : Int} (hn : n < 0) :
    t.addSeconds? n = ofEpoch? (t.epochNanos / nanosPerSecond + n) t.subSecond := by
  have hlt := t.nano_lt
  obtain ⟨hsecond, hnano⟩ : (if t.isLeap && n < 0 then (t.second : Int) + 1 else t.second)
        = t.epochNanos / nanosPerSecond - t.day * secondsPerDay
      ∧ (if t.isLeap then t.nano - nanosPerSecond else t.nano) = t.subSecond := by
    rw [epochNanos, epochSeconds, subSecond, isLeap]
    simp only [hn, decide_true, Bool.and_true, decide_eq_true_eq]
    rw [nanosPerSecond] at *
    split <;> omega
  rw [addSeconds?, if_neg (by omega), ofEpoch?]
  simp only [hsecond, hnano]
  rw [secondsPerDay]
  congr 1 <;> omega

/-- **Seconds are taken off the nanoseconds since the epoch**, and lead out of a leap second. -/
theorem addSeconds?_eq_some_iff {n : Int} (hn : n < 0) : t.addSeconds? n = some u
    ↔ u.epochNanos = t.epochNanos + n * nanosPerSecond ∧ u.isLeap = false := by
  have hlt := u.nano_lt
  rw [addSeconds?_of_neg hn, ofEpoch?_eq_some_iff, Bool.eq_false_iff, ne_eq, isLeap_iff, epochNanos,
    epochNanos, subSecond]
  rw [nanosPerSecond] at *
  omega

/-! ## Months -/

/-- The count of the month that an instant lies in, from its date. -/
theorem monthIndex_day (t : Instant) :
    monthIndex t.day = t.date.year * 12 + (t.date.month - 1 : Nat) := by
  rw [monthIndex, date, (ofNumber_spec t.day).1]

/-- The date so many months later: the month by its count, the day as far as that month has it. -/
theorem date_addMonths (t : Instant) (n : Int) {date : Date} (h : t.date.addMonths n = date) :
    date.year * 12 + (date.month - 1 : Nat) = monthIndex t.day + n ∧ 1 ≤ date.month
      ∧ date.month ≤ 12 ∧ date.day = min t.date.day (monthLength date.year date.month)
      ∧ Date.ofNumber date.number = date := by
  obtain ⟨-, -, -, hday, -⟩ := ofNumber_spec t.day
  obtain ⟨year, month, hyear, hmonth⟩ : ∃ year month, year = (monthIndex t.day + n) / 12
      ∧ month = ((monthIndex t.day + n) % 12).toNat + 1 := ⟨_, _, rfl, rfl⟩
  have hdate : t.date.addMonths n = ⟨year, month, min t.date.day (monthLength year month)⟩ := by
    rw [hyear, hmonth, monthIndex_day]
    rfl
  obtain rfl := h.symm.trans hdate
  have hlow : 1 ≤ month := by omega
  have hhigh : month ≤ 12 := by omega
  have hfirst : 1 ≤ min t.date.day (monthLength year month) :=
    Nat.le_min.mpr ⟨hday, monthLength_pos year hlow hhigh⟩
  exact ⟨by simp only; omega, hlow, hhigh, rfl,
    Date.ofNumber_number hlow hhigh hfirst (Nat.min_le_right _ _)⟩

/-- **Months are taken off the count of months**, and the day stays the same or becomes the last. -/
theorem addMonths?_eq_some_iff {n : Int} : t.addMonths? n = some u
    ↔ monthIndex u.day = monthIndex t.day + n
      ∧ u.date.day = min t.date.day (monthLength u.date.year u.date.month)
      ∧ u.second = t.second ∧ u.nano = t.nano := by
  obtain ⟨date, hdate⟩ : ∃ date, t.date.addMonths n = date := ⟨_, rfl⟩
  obtain ⟨hindex, hlow, hhigh, hday, hback⟩ := date_addMonths t n hdate
  rw [addMonths?, hdate, monthIndex_day u]
  constructor
  · intro h
    split at h
    · obtain ⟨hu, hsecond, hnano⟩ := ofParts?_eq_some h
      have hsame : u.date = date := by rw [Instant.date, hu, hback]
      rw [hsame]
      exact ⟨hindex, hday, hsecond, hnano⟩
    · cases h
  · rintro ⟨hindex', hday', hsecond, hnano⟩
    obtain ⟨-, hu, hu', -⟩ := ofNumber_spec u.day
    change 1 ≤ u.date.month at hu
    change u.date.month ≤ 12 at hu'
    have hyear : u.date.year = date.year := by omega
    have hmonth : u.date.month = date.month := by omega
    rw [hyear, hmonth, ← hday] at hday'
    have hsame : date = u.date := calc
      date = ⟨date.year, date.month, date.day⟩ := rfl
      _ = ⟨u.date.year, u.date.month, u.date.day⟩ := by rw [hyear, hmonth, hday']
      _ = u.date := rfl
    have hvalid : u.date.isValid = true := ofNumber_isValid u.day_ge u.day_le
    have hnumber : u.date.number = u.day := number_ofNumber u.day
    rw [hsame, if_pos hvalid, hnumber, ← hsecond, ← hnano]
    exact ofParts?_self u

/-- A day is the first of its month and the days after it. -/
theorem day_eq_firstOfMonth (t : Instant) :
    t.day = firstOfMonth (monthIndex t.day) + (t.date.day - 1 : Nat) := by
  obtain ⟨hyear, hmonth, hmonth', -, -, hnumber⟩ := ofNumber_spec t.day
  rw [Date.number, hyear] at hnumber
  rw [monthIndex, ← number_eq_firstOfMonth _ hmonth hmonth', number_first]
  exact hnumber.symm

/-- Going back by months leads to nothing later. -/
theorem addMonths?_le {n : Int} (hn : n ≤ 0) (h : t.addMonths? n = some u) : u ≤ t := by
  obtain ⟨hindex, hday, hsecond, hnano⟩ := addMonths?_eq_some_iff.mp h
  have hle : u.day ≤ t.day := by
    rcases Int.lt_or_eq_of_le hn with hlt | rfl
    · have hend := (firstOfMonth_monthIndex u.day).2
      have hstart := (firstOfMonth_monthIndex t.day).1
      have hmono := firstOfMonth_strictMono.monotone
        (show monthIndex u.day + 1 ≤ monthIndex t.day by omega)
      omega
    · rw [day_eq_firstOfMonth u, day_eq_firstOfMonth t, hindex, hday, Int.add_zero]
      have hmin := Nat.min_le_left t.date.day (monthLength u.date.year u.date.month)
      omega
  rw [le_iff_rank, rank, rank, hsecond, hnano]
  rw [nanosPerSecond, secondsPerDay]
  omega

end Instant

/-! ## Units -/

/-- So many seconds before an instant; with none of them, the instant itself. -/
structure SecondsBefore (seconds : Nat) (now start : Instant) : Prop where
  nanos : start.epochNanos = now.epochNanos - seconds * nanosPerSecond
  /-- Any way back leads out of a leap second. -/
  leap : start.isLeap = (now.isLeap && seconds == 0)

/-- So many months before an instant, at the same time of day. -/
structure MonthsBefore (months : Nat) (now start : Instant) : Prop where
  month : monthIndex start.day = monthIndex now.day - months
  /-- The same day of the month, or the last if the month is too short. -/
  day : start.date.day = min now.date.day (monthLength start.date.year start.date.month)
  second : start.second = now.second
  nano : start.nano = now.nano

variable {now start : Instant}

theorem secondsBefore_iff {seconds : Nat} :
    now.addSeconds? (-(seconds : Int)) = some start ↔ SecondsBefore seconds now start := by
  rcases Nat.eq_zero_or_pos seconds with rfl | hpos
  · rw [Instant.addSeconds?, if_pos (by omega), Option.some_inj]
    constructor
    · rintro rfl
      exact ⟨by simp, by simp⟩
    · rintro ⟨hnanos, hleap⟩
      exact (Instant.eq_of_epochNanos (by simpa using hnanos) (by simpa using hleap)).symm
  · have hne : (now.isLeap && seconds == 0) = false := by
      rw [beq_false_of_ne (Nat.ne_of_gt hpos), Bool.and_false]
    rw [Instant.addSeconds?_eq_some_iff (by omega), Int.neg_mul, ← Int.sub_eq_add_neg]
    constructor
    · rintro ⟨hnanos, hleap⟩
      exact ⟨hnanos, hleap.trans hne.symm⟩
    · rintro ⟨hnanos, hleap⟩
      exact ⟨hnanos, hleap.trans hne⟩

theorem monthsBefore_iff {months : Nat} :
    now.addMonths? (-(months : Int)) = some start ↔ MonthsBefore months now start := by
  rw [Instant.addMonths?_eq_some_iff]
  constructor
  · rintro ⟨hmonth, hday, hsecond, hnano⟩
    exact ⟨hmonth, hday, hsecond, hnano⟩
  · rintro ⟨hmonth, hday, hsecond, hnano⟩
    exact ⟨hmonth, hday, hsecond, hnano⟩

namespace TimeUnit

variable {unit : TimeUnit} {amount length : Nat}

/-- So many units before an instant. -/
def IsBefore (unit : TimeUnit) (amount : Nat) : (now start : Instant) → Prop :=
  match unit with
  | .second => SecondsBefore amount
  | .minute => SecondsBefore (amount * 60)
  | .hour => SecondsBefore (amount * 3600)
  | .day => SecondsBefore (amount * 86400)
  | .week => SecondsBefore (amount * 604800)
  | .month => MonthsBefore amount
  | .year => MonthsBefore (amount * 12)

theorem isBefore_of_seconds? (h : unit.seconds? = some length) (amount : Nat) :
    unit.IsBefore amount = SecondsBefore (amount * length) := by
  cases unit with
  | second =>
    obtain rfl := Option.some.inj h
    rw [Nat.mul_one]
    rfl
  | month | year => cases h
  | _ =>
    obtain rfl := Option.some.inj h
    rfl

theorem before?_of_seconds? (h : unit.seconds? = some length) (amount : Nat) (now : Instant) :
    unit.before? amount now = now.addSeconds? (-((amount * length : Nat) : Int)) := by
  cases unit with
  | month | year => cases h
  | _ =>
    obtain rfl := Option.some.inj h
    rfl

/-- **The instant that is found is so many units before**, and it is found if the calendar has
it. -/
theorem before?_eq_some_iff :
    unit.before? amount now = some start ↔ unit.IsBefore amount now start := by
  cases unit with
  | month => exact monthsBefore_iff
  | year =>
    have hcast : -((amount : Int) * 12) = -((amount * 12 : Nat) : Int) := by omega
    rw [before?, hcast]
    exact monthsBefore_iff
  | _ =>
    rw [isBefore_of_seconds? rfl, before?_of_seconds? rfl]
    exact secondsBefore_iff

theorem before?_le (h : unit.before? amount now = some start) : start ≤ now := by
  cases unit with
  | month | year => exact Instant.addMonths?_le (by omega) h
  | _ =>
    rw [before?_of_seconds? rfl] at h
    exact Instant.addSeconds?_le (by omega) h

end TimeUnit

/-- The window that goes back by so many units, if the calendar has its start. -/
theorem Keyword.window_back {unit : TimeUnit} {amount : Nat}
    (h : unit.IsBefore amount now start) :
    (back amount unit).window now = some (.ok ⟨start, now⟩) := by
  have hbefore := TimeUnit.before?_eq_some_iff.mpr h
  rw [window, hbefore, Option.map_some, Window.ofBounds, if_pos (TimeUnit.before?_le hbefore)]

theorem Keyword.window_back_eq_none {unit : TimeUnit} {amount : Nat}
    (h : ∀ start, ¬unit.IsBefore amount now start) : (back amount unit).window now = none := by
  rw [window, Option.map_eq_none_iff]
  cases hbefore : unit.before? amount now with
  | none => rfl
  | some start => exact absurd (TimeUnit.before?_eq_some_iff.mp hbefore) (h start)

/-- **Units of a fixed length go back as far as a relative range** of the same number of seconds,
if that does not end before the epoch. -/
theorem TimeRange.resolve_relative_of_isBefore {unit : TimeUnit} {amount length : Nat}
    (hlength : unit.seconds? = some length) (hpos : 1 ≤ amount) (hamount : amount < 0x100000000)
    (h : unit.IsBefore amount now start) (hepoch : .epoch ≤ start) (readKeyword : KeywordReader) :
    (TimeRange.relative (.ofNat (amount * length))).resolve readKeyword now = .ok ⟨start, now⟩ := by
  have hbounds : 1 ≤ length ∧ length ≤ 604800 := by
    cases unit <;> cases hlength <;> decide
  have hprod : amount * length < 2 ^ 64 := by
    have := Nat.mul_le_mul (show amount ≤ 0x100000000 by omega) hbounds.2
    omega
  have hnat : (UInt64.ofNat (amount * length)).toNat = amount * length := by
    rw [UInt64.toNat_ofNat', Nat.mod_eq_of_lt hprod]
  have hne : UInt64.ofNat (amount * length) ≠ 0 := by
    intro hzero
    rw [hzero] at hnat
    have hpos' := Nat.mul_pos hpos hbounds.1
    exact absurd hnat (Nat.ne_of_lt hpos')
  rw [TimeUnit.isBefore_of_seconds? hlength] at h
  rw [resolve, relativeStart, if_neg hne, hnat, secondsBefore_iff.mpr h, Option.getD_some,
    Instant.latest]
  split
  · next hle =>
    have hsame : start = .epoch := by
      rw [Instant.le_iff_rank] at hle hepoch
      exact Instant.rank_injective (by omega)
    rw [hsame]
  · rfl

end LogSearch
