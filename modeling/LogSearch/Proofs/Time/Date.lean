import Mathlib
import LogSearch.Time.Interval

/-!
# Days and dates

The date of a day of the calendar exists, and its number is that of the day (`ofNumber_isValid`,
`number_ofNumber`). The first day of the month, the quarter and the year that a day lies in is
therefore a day of the calendar as well, so a bucket always has a start, except for a week that
begins before the calendar (`truncate?_isSome`).
-/

namespace LogSearch

/-! ## Years -/

/-- The months of a year take up the days until the next. -/
theorem sum_monthLengths (year : Int) :
    yearStart year + ((monthLengths year).sum : Nat) = yearStart (year + 1) := by
  have hleap : isLeap year = true
      ↔ year % 4 = 0 ∧ (year % 100 ≠ 0 ∨ year % 400 = 0) := by simp [isLeap]
  cases h : isLeap year with
  | true =>
    have := hleap.mp h
    have hsum : (monthLengths year).sum = 366 := by simp [monthLengths, h]
    rw [hsum, yearStart, yearStart]
    omega
  | false =>
    have : ¬ (year % 4 = 0 ∧ (year % 100 ≠ 0 ∨ year % 400 = 0)) := by rw [← hleap, h]; simp
    have hsum : (monthLengths year).sum = 365 := by simp [monthLengths, h]
    rw [hsum, yearStart, yearStart]
    omega

theorem yearStart_lt {year later : Int} (h : year < later) : yearStart year < yearStart later := by
  have hyear := yearStart_bounds year
  have hlater := yearStart_bounds later
  omega

theorem yearStart_le {year later : Int} (h : year ≤ later) : yearStart year ≤ yearStart later := by
  rcases Int.lt_or_eq_of_le h with h | rfl
  · exact Int.le_of_lt (yearStart_lt h)
  · exact Int.le_refl _

/-- A day of the calendar lies in a year of the calendar. -/
theorem yearOf_bounds {day : Int} (hmin : minDay ≤ day) (hmax : day ≤ maxDay) :
    minYear ≤ yearOf day ∧ yearOf day ≤ maxYear := by
  have hstart := yearStart_yearOf day
  have hnext := lt_yearStart_yearOf day
  rw [minDay_eq] at hmin
  rw [maxDay_eq] at hmax
  constructor
  · refine Int.not_lt.mp fun h => ?_
    have := yearStart_le (show yearOf day + 1 ≤ minYear from h)
    omega
  · refine Int.not_lt.mp fun h => ?_
    have := yearStart_le (show maxYear + 1 ≤ yearOf day from h)
    omega

/-! ## Months -/

theorem monthStart_eq_sum (year : Int) (month : Nat) :
    monthStart year month = ((monthLengths year).take (month - 1)).sum :=
  List.sum_eq_foldl.symm

/-- Counting days through the months ends in a month, after those of the months before it. -/
theorem monthDay_spec (lengths : List Nat) (month d : Nat) (h : d < lengths.sum) :
    ∃ i, ∃ hi : i < lengths.length, (monthDay month lengths d).1 = month + i
      ∧ 1 ≤ (monthDay month lengths d).2 ∧ (monthDay month lengths d).2 ≤ lengths[i]
      ∧ (lengths.take i).sum + ((monthDay month lengths d).2 - 1) = d := by
  induction lengths generalizing month d with
  | nil => simp at h
  | cons n rest ih =>
    rw [monthDay]
    -- the day lies in this month, or as far into those that are left
    by_cases hd : d < n
    · rw [if_pos hd]
      exact ⟨0, by simp, rfl, by simp, by simpa using Nat.succ_le_of_lt hd, by simp⟩
    · rw [if_neg hd]
      rw [List.sum_cons] at h
      obtain ⟨i, hi, hmonth, hpos, hle, hsum⟩ := ih (month + 1) (d - n) (by omega)
      refine ⟨i + 1, by simpa using hi, by omega, hpos, by simpa using hle, ?_⟩
      rw [List.take_succ_cons, List.sum_cons]
      omega

theorem monthLength_le (year : Int) (month : Nat) : monthLength year month ≤ 31 := by
  have hall : ∀ n ∈ monthLengths year, n ≤ 31 := by
    cases h : isLeap year <;> simp [monthLengths, h]
  rw [monthLength]
  split
  · exact Nat.zero_le _
  · rw [List.getD_eq_getElem?_getD]
    cases hget : (monthLengths year)[month - 1]? with
    | none => exact Nat.zero_le _
    | some n => exact hall n (List.mem_of_getElem? hget)

/-- **What the date of a day consists of.** -/
theorem ofNumber_spec (day : Int) :
    (Date.ofNumber day).year = yearOf day
      ∧ 1 ≤ (Date.ofNumber day).month ∧ (Date.ofNumber day).month ≤ 12
      ∧ 1 ≤ (Date.ofNumber day).day
      ∧ (Date.ofNumber day).day ≤ monthLength (yearOf day) (Date.ofNumber day).month
      ∧ (Date.ofNumber day).number = day := by
  have hstart := yearStart_yearOf day
  have hnext := lt_yearStart_yearOf day
  have hsum := sum_monthLengths (yearOf day)
  obtain ⟨i, hi, hmonth, hpos, hle, hcount⟩ := monthDay_spec (monthLengths (yearOf day)) 1
    (day - yearStart (yearOf day)).toNat (by omega)
  have htwelve : (monthLengths (yearOf day)).length = 12 := rfl
  have hdate : Date.ofNumber day = ⟨yearOf day,
      (monthDay 1 (monthLengths (yearOf day)) (day - yearStart (yearOf day)).toNat).1,
      (monthDay 1 (monthLengths (yearOf day)) (day - yearStart (yearOf day)).toNat).2⟩ := rfl
  rw [hdate]
  generalize monthDay 1 (monthLengths (yearOf day)) (day - yearStart (yearOf day)).toNat = md at *
  obtain ⟨month, d⟩ := md
  obtain rfl : month = 1 + i := hmonth
  refine ⟨rfl, by simp, by simp only; omega, hpos, ?_, ?_⟩
  · have hlength : monthLength (yearOf day) (1 + i) = (monthLengths (yearOf day))[i] := by
      rw [monthLength, if_neg (by omega), Nat.add_sub_cancel_left]
      simp [hi]
    rw [hlength]
    exact hle
  · rw [Date.number, monthStart_eq_sum, Nat.add_sub_cancel_left]
    simp only at hcount ⊢
    omega

/-- **The date of a day of the calendar exists.** -/
theorem ofNumber_isValid {day : Int} (hmin : minDay ≤ day) (hmax : day ≤ maxDay) :
    (Date.ofNumber day).isValid = true := by
  obtain ⟨hyear, _, _, hpos, hle, _⟩ := ofNumber_spec day
  obtain ⟨hlow, hhigh⟩ := yearOf_bounds hmin hmax
  simp only [Date.isValid, hyear, Bool.and_eq_true, decide_eq_true_eq]
  exact ⟨⟨⟨hlow, hhigh⟩, hpos⟩, hle⟩

/-- **The number of the date of a day is that of the day.** -/
theorem number_ofNumber (day : Int) : (Date.ofNumber day).number = day :=
  (ofNumber_spec day).2.2.2.2.2

/-! ## Starts of buckets -/

theorem ofParts?_isSome {day : Int} {second nano : Nat} (hmin : minDay ≤ day) (hmax : day ≤ maxDay)
    (hsecond : second < secondsPerDay) (hnano : nano < 2 * nanosPerSecond)
    (hleap : nanosPerSecond ≤ nano → second % 60 = 59) :
    (Instant.ofParts? day second nano).isSome := by
  rw [Instant.ofParts?, dif_pos ⟨hmin, hmax, hsecond, hnano, hleap⟩]
  rfl

theorem startOfDay?_isSome {day : Int} (hmin : minDay ≤ day) (hmax : day ≤ maxDay) :
    (Instant.startOfDay? day).isSome :=
  ofParts?_isSome hmin hmax (by decide) (by decide) (by decide)

theorem monthStart_le (year : Int) {month later : Nat} (h : month ≤ later) :
    monthStart year month ≤ monthStart year later := by
  obtain ⟨k, hk⟩ := Nat.exists_eq_add_of_le (Nat.sub_le_sub_right h 1)
  rw [monthStart_eq_sum, monthStart_eq_sum, hk, List.take_add, List.sum_append]
  exact Nat.le_add_right _ _

theorem number_first (year : Int) (month : Nat) :
    (⟨year, month, 1⟩ : Date).number = yearStart year + monthStart year month := by
  simp [Date.number]

/-- The first day of a month that is not after a day of the year. -/
theorem startOfDate?_isSome (t : Instant) {month : Nat} (h : month ≤ t.date.month) :
    (Interval.startOfDate? ⟨t.date.year, month, 1⟩).isSome := by
  have hfirst := yearStart_le (yearOf_bounds t.day_ge t.day_le).1
  rw [← minDay_eq] at hfirst
  have hmax := t.day_le
  have hnumber := number_ofNumber t.day
  have hmonths := monthStart_le t.date.year h
  change (t.date).number = t.day at hnumber
  rw [Date.number] at hnumber
  change minDay ≤ yearStart t.date.year at hfirst
  -- it is not before the first year of the calendar and not after the day
  refine startOfDay?_isSome ?_ ?_ <;> rw [number_first] <;> omega

theorem quarterMonth_le {month : Nat} (h : 1 ≤ month) : Interval.quarterMonth month ≤ month := by
  rw [Interval.quarterMonth]
  omega

/-- Whole days back, but not before the calendar, there is an instant. -/
theorem addDays?_isSome {t : Instant} {back : Nat} (h : minDay + back ≤ t.day) :
    (t.addDays? (-(back : Int))).isSome := by
  have hmax := t.day_le
  have hsecond := t.second_lt
  have hnano := t.nano_lt
  have hleap := t.leap_last
  rw [Instant.addDays?, Instant.addSeconds?]
  split
  · rfl
  · next hne =>
    simp only [secondsPerDay, nanosPerSecond, Instant.isLeap] at *
    -- out of a leap second the way back starts a second later, at midnight at the latest
    by_cases hl : 1000000000 ≤ t.nano
    · have hback : -(back : Int) * (86400 : Nat) < 0 := by omega
      simp only [hl, hback, decide_true, Bool.and_self, if_true]
      exact ofParts?_isSome (by omega) (by omega) (by rw [secondsPerDay]; omega)
        (by rw [nanosPerSecond]; omega) (by rw [nanosPerSecond]; omega)
    · simp only [hl, decide_false, Bool.false_and, Bool.false_eq_true, if_false]
      exact ofParts?_isSome (by omega) (by omega) (by rw [secondsPerDay]; omega)
        (by rw [nanosPerSecond]; omega) (by rw [nanosPerSecond]; omega)

/-- **Every instant has a bucket**, unless its week begins before the calendar. -/
theorem truncate?_isSome {interval : Interval} {t : Instant}
    (h : interval = .week → minDay + 6 ≤ t.day) : (interval.truncate? t).isSome := by
  have hmonth : 1 ≤ t.date.month := (ofNumber_spec t.day).2.1
  cases interval with
  | minute => rfl
  | hour => rfl
  | day => rfl
  | week =>
    have hback : Date.daysSinceMonday t.day ≤ 6 := by rw [Date.daysSinceMonday]; omega
    have hday := h rfl
    rw [Interval.truncate?, Option.isSome_map]
    exact addDays?_isSome (by omega)
  | month => exact startOfDate?_isSome t (Nat.le_refl _)
  | quarter => exact startOfDate?_isSome t (quarterMonth_le hmonth)
  | year => exact startOfDate?_isSome t hmonth

end LogSearch
