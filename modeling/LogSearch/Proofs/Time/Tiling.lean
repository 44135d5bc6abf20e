import Mathlib
import LogSearch.Proofs.Time.Months
import LogSearch.Proofs.Time.Window

/-!
# Buckets side by side

From the start of a bucket, `Interval.next?` leads to the start of the next (`next?_eq`), and the
seconds from one to the other, and no others, lie in the bucket (`startSecond_eq_iff`). So buckets
leave no gap and do not overlap.

Days are taken off a leap second as if it were the second after it. At the end of a day that is a
second of the next day, so the way back to Monday ends a day too early, on Tuesday
(`Interval.Misses`). Main statement: apart from these instants, for which weeks go wrong, the buckets
of every interval tile the time line (`truncate?_tiles`).
-/

namespace LogSearch

/-! ## Starts of seconds -/

namespace Instant

variable {t u : Instant}

theorem le_iff_epochSeconds (ht : t.nano = 0) : t ≤ u ↔ t.epochSeconds ≤ u.epochSeconds := by
  have hu := u.nano_lt
  rw [le_iff_rank, rank_eq_epochSeconds, rank_eq_epochSeconds, ht]
  rw [nanosPerSecond] at *
  omega

theorem lt_iff_epochSeconds (hu : u.nano = 0) : t < u ↔ t.epochSeconds < u.epochSeconds := by
  have ht := t.nano_lt
  rw [lt_iff_rank, rank_eq_epochSeconds, rank_eq_epochSeconds, hu]
  rw [nanosPerSecond] at *
  omega

theorem isLeap_of_nano (ht : t.nano = 0) : t.isLeap = false := by
  rw [isLeap, ht]
  rfl

/-- An instant that is found from its second. -/
theorem ofEpoch?_eq_some {second : Int} (h : ofEpoch? second 0 = some t) :
    t.nano = 0 ∧ t.epochSeconds = second := by
  obtain ⟨hday, hsecond, hnano⟩ := ofParts?_eq_some h
  refine ⟨hnano, ?_⟩
  rw [epochSeconds, hday, hsecond]
  simp only [secondsPerDay]
  omega

/-- Seconds after the start of a second another second starts, if the calendar has it. -/
theorem addSeconds?_eq_ofEpoch? (ht : t.nano = 0) (n : Int) :
    t.addSeconds? n = ofEpoch? (t.epochSeconds + n) 0 := by
  rw [addSeconds?]
  split
  · next hzero => rw [hzero, Int.add_zero, ofEpoch?_epochSeconds ht]
  · have hday : t.day + ((t.second : Int) + n) / secondsPerDay
        = (t.epochSeconds + n) / secondsPerDay := by
      simp only [epochSeconds, secondsPerDay]
      omega
    have hsecond : ((t.second : Int) + n) % secondsPerDay
        = (t.epochSeconds + n) % secondsPerDay := by
      simp only [epochSeconds, secondsPerDay]
      omega
    simp only [isLeap_of_nano ht, Bool.false_and, Bool.false_eq_true, if_false, ofEpoch?, hday,
      hsecond, ht]

end Instant

namespace Interval

variable {interval : Interval} {start : Int}

/-! ## Days -/

/-- The day that the next bucket starts on. -/
def nextDay (interval : Interval) (day : Int) : Int :=
  match interval with
  | .week => day + 7
  | .month => firstOfMonth (monthIndex day + 1)
  | .quarter => firstOfMonth (monthIndex day + 3)
  | .year => firstOfMonth (monthIndex day + 12)
  | _ => day + 1

/-- Months, quarters and years are runs of months. -/
theorem startDay_of_months (day : Int) :
    Interval.month.startDay day = firstOfMonth (monthIndex day / 1 * 1)
      ∧ Interval.quarter.startDay day = firstOfMonth (monthIndex day / 3 * 3)
      ∧ Interval.year.startDay day = firstOfMonth (monthIndex day / 12 * 12) := by
  refine ⟨firstDay_eq (by omega) (fun month h _ => ⟨h, by simp⟩) day,
    firstDay_eq (by omega) (fun month h _ => ⟨one_le_quarterMonth month, ?_⟩) day,
    firstDay_eq (by omega) (fun month h _ => ⟨Nat.le_refl 1, ?_⟩) day⟩
  · rw [quarterMonth]
    omega
  · omega

section

variable {length : Int}

/-- A run of months that begins on a day is the one that the days lie in until the next begins. -/
theorem run_eq_iff (hlength : length = 1 ∨ length = 3 ∨ length = 12)
    (h : firstOfMonth (monthIndex start / length * length) = start) (day : Int) :
    firstOfMonth (monthIndex day / length * length) = start
      ↔ start ≤ day ∧ day < firstOfMonth (monthIndex start + length) := by
  have hindex := congrArg monthIndex h
  rw [monthIndex_firstOfMonth] at hindex
  rw [hindex] at h
  rw [← not_le, firstOfMonth_le_iff]
  conv_lhs => rw [← h, firstOfMonth_strictMono.injective.eq_iff]
  conv_rhs => rw [← h, firstOfMonth_le_iff, monthIndex_firstOfMonth]
  rcases hlength with rfl | rfl | rfl <;> omega

/-- The next run of months begins where it says. -/
theorem run_next (hlength : length = 1 ∨ length = 3 ∨ length = 12)
    (h : firstOfMonth (monthIndex start / length * length) = start) :
    firstOfMonth (monthIndex (firstOfMonth (monthIndex start + length)) / length * length)
      = firstOfMonth (monthIndex start + length) := by
  have hindex := congrArg monthIndex h
  rw [monthIndex_firstOfMonth] at hindex
  rw [monthIndex_firstOfMonth]
  congr 1
  rcases hlength with rfl | rfl | rfl <;> omega

end

/-- **A bucket that starts on a day has the days until the next starts.** -/
theorem startDay_eq_iff (h : interval.startDay start = start) (day : Int) :
    interval.startDay day = start ↔ start ≤ day ∧ day < interval.nextDay start := by
  cases interval with
  | week =>
    simp only [startDay, nextDay, Date.daysSinceMonday] at *
    omega
  | month =>
    rw [(startDay_of_months _).1] at *
    exact run_eq_iff (by omega) h day
  | quarter =>
    rw [(startDay_of_months _).2.1] at *
    exact run_eq_iff (by omega) h day
  | year =>
    rw [(startDay_of_months _).2.2] at *
    exact run_eq_iff (by omega) h day
  | _ =>
    simp only [startDay, nextDay]
    omega

/-- **The next bucket starts where it says.** -/
theorem startDay_nextDay (h : interval.startDay start = start) :
    interval.startDay (interval.nextDay start) = interval.nextDay start := by
  cases interval with
  | week =>
    simp only [startDay, nextDay, Date.daysSinceMonday] at *
    omega
  | month =>
    rw [(startDay_of_months _).1] at *
    exact run_next (by omega) h
  | quarter =>
    rw [(startDay_of_months _).2.1] at *
    exact run_next (by omega) h
  | year =>
    rw [(startDay_of_months _).2.2] at *
    exact run_next (by omega) h
  | _ => rfl

/-- The start of a bucket lies in the bucket. -/
theorem startDay_startDay (interval : Interval) (day : Int) :
    interval.startDay (interval.startDay day) = interval.startDay day := by
  have hrun : ∀ length : Int, length = 1 ∨ length = 3 ∨ length = 12 →
      firstOfMonth (monthIndex (firstOfMonth (monthIndex day / length * length)) / length * length)
        = firstOfMonth (monthIndex day / length * length) := by
    intro length hlength
    rw [monthIndex_firstOfMonth]
    congr 1
    rcases hlength with rfl | rfl | rfl <;> omega
  cases interval with
  | week =>
    simp only [startDay, Date.daysSinceMonday]
    omega
  | month =>
    rw [(startDay_of_months _).1, (startDay_of_months _).1]
    exact hrun 1 (by omega)
  | quarter =>
    rw [(startDay_of_months _).2.1, (startDay_of_months _).2.1]
    exact hrun 3 (by omega)
  | year =>
    rw [(startDay_of_months _).2.2, (startDay_of_months _).2.2]
    exact hrun 12 (by omega)
  | _ => rfl

/-! ## Seconds -/

/-- The second that the next bucket starts at. -/
def nextSecond (interval : Interval) (second : Int) : Int :=
  match interval with
  | .minute => second + 60
  | .hour => second + 3600
  | interval => interval.nextDay (second / secondsPerDay) * secondsPerDay

/-- Minutes and hours are multiples of their length, the others are made of days. -/
theorem startSecond_cases (interval : Interval) :
    (∃ length, (length = 60 ∨ length = 3600)
      ∧ (∀ second, interval.startSecond second = second / length * length)
      ∧ ∀ second, interval.nextSecond second = second + length)
    ∨ (∀ second, interval.startSecond second
        = interval.startDay (second / secondsPerDay) * secondsPerDay)
      ∧ ∀ second, interval.nextSecond second
        = interval.nextDay (second / secondsPerDay) * secondsPerDay := by
  cases interval with
  | minute => exact .inl ⟨60, .inl rfl, fun _ => rfl, fun _ => rfl⟩
  | hour => exact .inl ⟨3600, .inr rfl, fun _ => rfl, fun _ => rfl⟩
  | _ => exact .inr ⟨fun _ => rfl, fun _ => rfl⟩

theorem startSecond_startSecond (interval : Interval) (second : Int) :
    interval.startSecond (interval.startSecond second) = interval.startSecond second := by
  obtain ⟨length, hlength, hstart, -⟩ | ⟨hstart, -⟩ := interval.startSecond_cases
  · rw [hstart, hstart]
    rcases hlength with rfl | rfl <;> omega
  · rw [hstart, startSecond_div, startDay_startDay, ← hstart]

/-- **A bucket that starts at a second has the seconds until the next starts.** -/
theorem startSecond_eq_iff (h : interval.startSecond start = start) (second : Int) :
    interval.startSecond second = start ↔ start ≤ second ∧ second < interval.nextSecond start := by
  obtain ⟨length, hlength, hstart, hnext⟩ | ⟨hstart, hnext⟩ := interval.startSecond_cases
  · rw [hstart] at *
    rw [hnext]
    rcases hlength with rfl | rfl <;> omega
  · have hday := (startSecond_div interval start).symm
    rw [h] at hday
    have hiff := startDay_eq_iff hday (second / secondsPerDay)
    rw [hstart] at *
    rw [hnext]
    simp only [secondsPerDay] at *
    omega

/-- **The next bucket starts where it says.** -/
theorem startSecond_nextSecond (h : interval.startSecond start = start) :
    interval.startSecond (interval.nextSecond start) = interval.nextSecond start := by
  obtain ⟨length, hlength, hstart, hnext⟩ | ⟨hstart, hnext⟩ := interval.startSecond_cases
  · rw [hstart] at *
    rw [hnext]
    rcases hlength with rfl | rfl <;> omega
  · have hday := (startSecond_div interval start).symm
    rw [h] at hday
    have hdiv : interval.nextDay (start / secondsPerDay) * (secondsPerDay : Int) / secondsPerDay
        = interval.nextDay (start / secondsPerDay) := Int.mul_ediv_cancel _ (by decide)
    rw [hnext, hstart, hdiv, startDay_nextDay hday]

theorem lt_nextSecond (h : interval.startSecond start = start) :
    start < interval.nextSecond start :=
  ((startSecond_eq_iff h start).mp h).2

/-! ## Starts -/

/-- The instant is the start of its bucket. -/
def IsStart (interval : Interval) (t : Instant) : Prop := interval.truncate? t = some t

variable {t u first next : Instant}

/-- **Starts of buckets** are starts of seconds that say so. -/
theorem isStart_iff : interval.IsStart t
    ↔ t.nano = 0 ∧ interval.startSecond t.epochSeconds = t.epochSeconds := by
  constructor
  · intro h
    obtain ⟨hnano, hsecond⟩ := truncate?_eq_some h
    exact ⟨hnano, (hsecond fun _ => Instant.isLeap_of_nano hnano).symm⟩
  · rintro ⟨hnano, hsecond⟩
    have hday : interval.startDay t.day = t.day := by
      rw [← t.epochSeconds_div, ← startSecond_div, hsecond]
    obtain ⟨first, hfirst⟩ :=
      Option.isSome_iff_exists.mp (truncate?_isSome_of_startDay (hday.symm ▸ t.day_ge))
    obtain ⟨hnano', hsecond'⟩ := truncate?_eq_some hfirst
    rw [hsecond] at hsecond'
    rw [IsStart, hfirst, Instant.eq_of_epochSeconds hnano' hnano
      (hsecond' fun _ => Instant.isLeap_of_nano hnano)]

/-- A bucket that is made of days starts at midnight, on the day that it asks for. -/
theorem IsStart.midnight (h : interval.IsStart first)
    (hdays : ∀ second, interval.startSecond second
      = interval.startDay (second / secondsPerDay) * secondsPerDay) :
    interval.startDay first.day = first.day ∧ first.second = 0
      ∧ first.epochSeconds = first.day * secondsPerDay := by
  have hlt := first.second_lt
  have hstart := (isStart_iff.mp h).2
  have hsame : interval.startDay first.day = first.day := by
    rw [← first.epochSeconds_div, ← startSecond_div, hstart]
  rw [hdays, first.epochSeconds_div, hsame] at hstart
  refine ⟨hsame, ?_, hstart.symm⟩
  simp only [Instant.epochSeconds, secondsPerDay] at *
  omega

/-- A bucket that is a run of months is followed by the bucket so many months later. -/
theorem IsStart.addMonths?_eq (h : interval.IsStart first) {length : Nat}
    (hdays : ∀ second, interval.startSecond second
      = interval.startDay (second / secondsPerDay) * secondsPerDay)
    (hrun : ∀ day, interval.startDay day = firstOfMonth (monthIndex day / length * length)) :
    first.addMonths? length
      = Instant.ofEpoch? (firstOfMonth (monthIndex (first.epochSeconds / secondsPerDay) + length)
        * secondsPerDay) 0 := by
  obtain ⟨hsame, hsecond, -⟩ := h.midnight hdays
  rw [hrun] at hsame
  have hindex := congrArg monthIndex hsame
  rw [monthIndex_firstOfMonth] at hindex
  rw [hindex] at hsame
  rw [Instant.addMonths?_eq hsame hsecond (isStart_iff.mp h).1, Instant.startOfDay?_eq_ofEpoch?,
    first.epochSeconds_div]

/-- **From the start of a bucket the next is found by its second.** -/
theorem next?_eq (h : interval.IsStart first) :
    interval.next? first = Instant.ofEpoch? (interval.nextSecond first.epochSeconds) 0 := by
  have hnano := (isStart_iff.mp h).1
  have hadd : ∀ days : Int, first.epochSeconds = first.day * secondsPerDay →
      first.addDays? days
        = Instant.ofEpoch? ((first.epochSeconds / secondsPerDay + days) * secondsPerDay) 0 := by
    intro days hmidnight
    rw [Instant.addDays?, Instant.addSeconds?_eq_ofEpoch? hnano, first.epochSeconds_div, hmidnight,
      Int.add_mul]
  cases interval with
  | minute => exact Instant.addSeconds?_eq_ofEpoch? hnano 60
  | hour => exact Instant.addSeconds?_eq_ofEpoch? hnano 3600
  | day => exact hadd 1 (h.midnight fun _ => rfl).2.2
  | week => exact hadd 7 (h.midnight fun _ => rfl).2.2
  | month =>
    exact h.addMonths?_eq (fun _ => rfl) fun day => (startDay_of_months day).1
  | quarter =>
    exact h.addMonths?_eq (fun _ => rfl) fun day => (startDay_of_months day).2.1
  | year =>
    exact h.addMonths?_eq (fun _ => rfl) fun day => (startDay_of_months day).2.2

/-- **The next bucket starts at its second**, and is a bucket. -/
theorem IsStart.of_next? (h : interval.IsStart first) (hnext : interval.next? first = some next) :
    interval.IsStart next ∧ next.epochSeconds = interval.nextSecond first.epochSeconds := by
  rw [next?_eq h] at hnext
  obtain ⟨hnano, hsecond⟩ := Instant.ofEpoch?_eq_some hnext
  refine ⟨isStart_iff.mpr ⟨hnano, ?_⟩, hsecond⟩
  rw [hsecond]
  exact startSecond_nextSecond (isStart_iff.mp h).2

/-! ## Leap seconds -/

/-- The way back to the start of the week misses it: the instant is a leap second at the end of a
day, and the day is not a Monday. -/
def Misses (interval : Interval) (t : Instant) : Prop :=
  interval = .week ∧ t.isLeap = true ∧ t.second + 1 = secondsPerDay
    ∧ Date.daysSinceMonday t.day ≠ 0

instance (interval : Interval) (t : Instant) : Decidable (interval.Misses t) :=
  inferInstanceAs (Decidable (_ ∧ _))

theorem startSecond_week (t : Instant) :
    Interval.week.startSecond t.epochSeconds
      = (t.day - Date.daysSinceMonday t.day) * secondsPerDay := by
  show Interval.week.startDay (t.epochSeconds / secondsPerDay) * secondsPerDay = _
  rw [t.epochSeconds_div]
  rfl

/-- **Where the bucket of an instant is taken to start**: at its start, or a day later if that is
missed. -/
theorem epochSeconds_of_truncate? (h : interval.truncate? t = some first) :
    first.nano = 0 ∧ first.epochSeconds = interval.startSecond t.epochSeconds
      + if interval.Misses t then (secondsPerDay : Int) else 0 := by
  obtain ⟨hnano, hregular⟩ := truncate?_eq_some h
  refine ⟨hnano, ?_⟩
  by_cases hleap : interval = .week ∧ t.isLeap = true
  · obtain ⟨rfl, hleap⟩ := hleap
    have hlt := t.second_lt
    obtain ⟨monday, hmonday, rfl⟩ := Option.map_eq_some_iff.mp h
    have hmidnight : monday.midnight.epochSeconds = monday.day * secondsPerDay := by
      simp [Instant.epochSeconds, Instant.midnight]
    by_cases hzero : Date.daysSinceMonday t.day = 0
    · -- on a Monday there is no way back
      have hsame : t = monday := by
        rw [hzero] at hmonday
        exact Option.some.inj hmonday
      rw [hmidnight, startSecond_week, if_neg fun hmisses => hmisses.2.2.2 hzero, hzero, hsame]
      simp
    · have hneg : -(Date.daysSinceMonday t.day : Int) * secondsPerDay < 0 := by
        simp only [secondsPerDay]
        omega
      obtain ⟨hseconds, -⟩ := Instant.addSeconds?_eq_some (Int.ne_of_lt hneg) hmonday
      have hday := monday.epochSeconds_div
      rw [hleap, decide_eq_true hneg, Bool.and_self, if_pos rfl] at hseconds
      rw [hmidnight, startSecond_week]
      split
      · next hmisses =>
        have hlast := hmisses.2.2.1
        simp only [Instant.epochSeconds, secondsPerDay] at *
        omega
      · next hnot =>
        have hearly : t.second + 1 ≠ secondsPerDay := fun hlast => hnot ⟨rfl, hleap, hlast, hzero⟩
        simp only [Instant.epochSeconds, secondsPerDay] at *
        omega
  · rw [if_neg fun hmisses => hleap ⟨hmisses.1, hmisses.2.1⟩, Int.add_zero]
    exact hregular fun hweek => by simpa using fun htrue => hleap ⟨hweek, htrue⟩

theorem IsStart.of_truncate? (h : interval.truncate? t = some first) (ht : ¬interval.Misses t) :
    interval.IsStart first ∧ first.epochSeconds = interval.startSecond t.epochSeconds := by
  obtain ⟨hnano, hsecond⟩ := epochSeconds_of_truncate? h
  rw [if_neg ht, Int.add_zero] at hsecond
  exact ⟨isStart_iff.mpr ⟨hnano, by rw [hsecond, startSecond_startSecond]⟩, hsecond⟩

/-! ## Tiling -/

/-- **A bucket has the instants from its start until the next starts**, except those that miss
it. -/
theorem IsStart.truncate?_iff (h : interval.IsStart first) (hnext : interval.next? first = some next)
    (hfirst : first ≤ u) (hlast : u < next) :
    interval.truncate? u = some first ↔ ¬interval.Misses u := by
  obtain ⟨hnano, hstart⟩ := isStart_iff.mp h
  obtain ⟨hstart', hsecond⟩ := h.of_next? hnext
  rw [Instant.le_iff_epochSeconds hnano] at hfirst
  rw [Instant.lt_iff_epochSeconds (isStart_iff.mp hstart').1, hsecond] at hlast
  have hsame := (startSecond_eq_iff hstart u.epochSeconds).mpr ⟨hfirst, hlast⟩
  have hday : minDay ≤ interval.startDay u.day := by
    rw [← u.epochSeconds_div, ← startSecond_div, hsame, first.epochSeconds_div]
    exact first.day_ge
  obtain ⟨found, hfound⟩ := Option.isSome_iff_exists.mp (truncate?_isSome_of_startDay hday)
  obtain ⟨hnano', hsecond'⟩ := epochSeconds_of_truncate? hfound
  rw [hsame] at hsecond'
  rw [hfound, Option.some.injEq]
  constructor
  · rintro rfl hmisses
    rw [if_pos hmisses, secondsPerDay] at hsecond'
    omega
  · intro hnot
    rw [if_neg hnot, Int.add_zero] at hsecond'
    exact Instant.eq_of_epochSeconds hnano' hnano hsecond'

/-- An instant that misses the start of its week lies in seven days from a Tuesday, and these are not
a week. -/
theorem Misses.bounds (ht : interval.Misses t) (h : interval.truncate? t = some first) :
    first ≤ t ∧ Date.daysSinceMonday first.day = 1
      ∧ ∀ next, interval.next? first = some next → t < next ∧ ¬interval.IsStart next := by
  obtain ⟨hnano, hsecond⟩ := epochSeconds_of_truncate? h
  rw [if_pos ht] at hsecond
  obtain ⟨rfl, -, hlast, hday⟩ := ht
  rw [startSecond_week] at hsecond
  have htuesday : Date.daysSinceMonday first.day = 1 := by
    have hfirst := first.epochSeconds_div
    simp only [Date.daysSinceMonday, Instant.epochSeconds, secondsPerDay] at *
    omega
  refine ⟨?_, htuesday, fun next hnext => ?_⟩
  · rw [Instant.le_iff_epochSeconds hnano]
    simp only [Date.daysSinceMonday, Instant.epochSeconds, secondsPerDay] at *
    omega
  · have hweek : first.addSeconds? (7 * secondsPerDay) = some next := hnext
    rw [Instant.addSeconds?_eq_ofEpoch? hnano] at hweek
    obtain ⟨hnano', hseconds⟩ := Instant.ofEpoch?_eq_some hweek
    rw [Instant.lt_iff_epochSeconds hnano', hseconds]
    constructor
    · simp only [Date.daysSinceMonday, Instant.epochSeconds, secondsPerDay] at *
      omega
    · -- a week later it is a Tuesday again
      intro hown
      have hmonday : Interval.week.startDay next.day = next.day := (hown.midnight fun _ => rfl).1
      have hdays := next.epochSeconds_div
      simp only [startDay, Date.daysSinceMonday, Instant.epochSeconds, secondsPerDay] at *
      omega

/-- **Buckets tile the time line**, except for leap seconds at the end of a day in weeks. An instant
lies between the start of its bucket and the next start, which is the start of its own bucket, and
what else lies there has the same bucket; weeks start on Monday. An instant that misses the start of
its week is put a day later, and what follows from there is no start. -/
theorem truncate?_tiles (interval : Interval) (t : Instant) (ht : minDay + 7 ≤ t.day) :
    ∃ start, interval.truncate? t = some start ∧ start ≤ t
      ∧ (interval = .week →
        Date.daysSinceMonday start.day = if interval.Misses t then 1 else 0)
      ∧ ∀ next, interval.next? start = some next → t < next
        ∧ (interval.truncate? next = some next ↔ ¬interval.Misses t)
        ∧ (¬interval.Misses t → ∀ u, start ≤ u → u < next →
          (interval.truncate? u = some start ↔ ¬interval.Misses u)) := by
  have hplaced : (interval.truncate? t).isSome := truncate?_isSome fun _ => by omega
  obtain ⟨start, hstart⟩ := Option.isSome_iff_exists.mp hplaced
  obtain ⟨hnano, hsecond⟩ := epochSeconds_of_truncate? hstart
  have hle := interval.startSecond_le t.epochSeconds
  refine ⟨start, hstart, ?_⟩
  by_cases hmisses : interval.Misses t
  · obtain ⟨hfirst, htuesday, hnext⟩ := hmisses.bounds hstart
    refine ⟨hfirst, fun _ => by rw [htuesday, if_pos hmisses], fun next h => ?_⟩
    exact ⟨(hnext next h).1, iff_of_false (hnext next h).2 (not_not_intro hmisses),
      fun hnot => absurd hmisses hnot⟩
  · obtain ⟨hown, hsecond⟩ := IsStart.of_truncate? hstart hmisses
    refine ⟨(Instant.le_iff_epochSeconds hnano).mpr (hsecond ▸ hle), ?_, fun next hnext => ?_⟩
    · rintro rfl
      rw [if_neg hmisses]
      have hday : Interval.week.startDay start.day = start.day := (hown.midnight fun _ => rfl).1
      simp only [startDay] at hday
      omega
    · obtain ⟨hstart', hnext'⟩ := hown.of_next? hnext
      refine ⟨?_, iff_of_true hstart' hmisses, fun _ u hfirst hlast =>
        hown.truncate?_iff hnext hfirst hlast⟩
      rw [Instant.lt_iff_epochSeconds (isStart_iff.mp hstart').1, hnext', hsecond]
      exact ((startSecond_eq_iff (interval.startSecond_startSecond _) _).mp rfl).2

/-- A leap second at the end of a year. -/
theorem truncate?_tiles_leapSecond :
    let t : Instant :=
      ⟨17166, 86399, 1500000000, by decide, by decide, by decide, by decide, by decide⟩
    let later : Instant := ⟨17167, 0, 0, by decide, by decide, by decide, by decide, by decide⟩
    minDay + 7 ≤ t.day
      ∧ ∃ start, Interval.quarter.truncate? t = some start
        ∧ Interval.quarter.next? start = some later ∧ t < later
        ∧ Interval.quarter.truncate? later = some later
        ∧ ∀ u, start ≤ u → u < later → Interval.quarter.truncate? u = some start := by
  intro t later
  have ht : minDay + 7 ≤ t.day := by decide
  obtain ⟨start, hstart, -, -, htiles⟩ := truncate?_tiles .quarter t ht
  have hquarter : ∀ u, ¬Interval.quarter.Misses u := fun u hmisses => by cases hmisses.1
  have hnext : Interval.quarter.next? start = some later := by
    have hfound : Interval.quarter.truncate? t
        = some ⟨17075, 0, 0, by decide, by decide, by decide, by decide, by decide⟩ := by
      decide +kernel
    rw [Option.some.inj (hstart.symm.trans hfound)]
    decide +kernel
  obtain ⟨hlt, hown, hwithin⟩ := htiles later hnext
  exact ⟨ht, start, hstart, hnext, hlt, hown.mpr (hquarter t), fun u hfirst hlast =>
    (hwithin (hquarter t) u hfirst hlast).mpr (hquarter u)⟩

/-- A leap second on a Saturday is put on the Tuesday of its week. -/
theorem truncate?_tiles_fails :
    let t : Instant :=
      ⟨17166, 86399, 1500000000, by decide, by decide, by decide, by decide, by decide⟩
    let tuesday : Instant := ⟨17162, 0, 0, by decide, by decide, by decide, by decide, by decide⟩
    let next : Instant := ⟨17169, 0, 0, by decide, by decide, by decide, by decide, by decide⟩
    minDay + 7 ≤ t.day ∧ Interval.week.truncate? t = some tuesday
      ∧ Interval.week.next? tuesday = some next ∧ Date.daysSinceMonday tuesday.day = 1
      ∧ Interval.week.truncate? next ≠ some next
      ∧ Interval.week.truncate? tuesday ≠ some tuesday := by
  decide +kernel

end Interval

end LogSearch
