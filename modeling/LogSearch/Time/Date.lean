/-!
# Calendar dates

Days are counted from 1970-01-01. `yearStart` counts the days before a year in the calendar with
leap years; everything else is found from it. The calendar reaches from the first day of year
-262143 to the last day of year 262142.

Main statements: `yearOf` names the year that a day lies in (`yearStart_yearOf`,
`lt_yearStart_yearOf`).
-/

namespace LogSearch

/-- Whether a year has a 29th of February. -/
def isLeap (year : Int) : Bool := year % 4 = 0 && (year % 100 ≠ 0 || year % 400 = 0)

/-- The days in each month of a year. -/
def monthLengths (year : Int) : List Nat :=
  [31, if isLeap year then 29 else 28, 31, 30, 31, 30, 31, 31, 30, 31, 30, 31]

/-- The days in a month, counted from 1; zero for a month that does not exist. -/
def monthLength (year : Int) (month : Nat) : Nat :=
  if month = 0 then 0 else (monthLengths year).getD (month - 1) 0

/-- The number of the first day of a year. -/
def yearStart (year : Int) : Int :=
  let before := year - 1
  365 * (year - 1970) + (before / 4 - before / 100 + before / 400) - 477

/-- The days of a year that precede a month. -/
def monthStart (year : Int) (month : Nat) : Nat :=
  ((monthLengths year).take (month - 1)).foldl (· + ·) 0

/-- A day of the calendar. -/
structure Date where
  year : Int
  month : Nat
  day : Nat
  deriving DecidableEq, Repr

/-- The least year of the calendar. -/
def minYear : Int := -262143

/-- The greatest year of the calendar. -/
def maxYear : Int := 262142

/-- The number of the first day of the calendar. -/
def minDay : Int := -96465292

/-- The number of the last day of the calendar. -/
def maxDay : Int := 95026236

theorem minDay_eq : minDay = yearStart minYear := by decide

theorem maxDay_eq : maxDay = yearStart (maxYear + 1) - 1 := by decide

/-- The year that a day lies in. The mean length of a year gives it up to one. -/
def yearOf (day : Int) : Int :=
  let guess := day * 400 / 146097 + 1970
  if day < yearStart guess then guess - 1
  else if yearStart (guess + 1) ≤ day then guess + 1
  else guess

/-- The leap days before a year stay close to 97 in 400 years. -/
theorem leapDays_bounds (n : Int) :
    97 * n - 591 ≤ 400 * (n / 4 - n / 100 + n / 400)
      ∧ 400 * (n / 4 - n / 100 + n / 400) ≤ 97 * n + 288 := by
  obtain ⟨q, s, u, v, rfl, hs, hu, hv⟩ : ∃ q s u v : Int, n = 400 * q + 100 * s + 4 * u + v
      ∧ (0 ≤ s ∧ s < 4) ∧ (0 ≤ u ∧ u < 25) ∧ (0 ≤ v ∧ v < 4) :=
    ⟨n / 400, n % 400 / 100, n % 100 / 4, n % 4, by omega, by omega, by omega, by omega⟩
  have h₁ : (400 * q + 100 * s + 4 * u + v) / 4 = 100 * q + 25 * s + u := by omega
  have h₂ : (400 * q + 100 * s + 4 * u + v) / 100 = 4 * q + s := by omega
  have h₃ : (400 * q + 100 * s + 4 * u + v) / 400 = q := by omega
  rw [h₁, h₂, h₃]
  omega

/-- A year starts close to its share of the mean length of a year. -/
theorem yearStart_bounds (year : Int) :
    146097 * (year - 1970) - 398 ≤ 400 * yearStart year
      ∧ 400 * yearStart year ≤ 146097 * (year - 1970) + 481 := by
  have := leapDays_bounds (year - 1)
  simp only [yearStart]
  omega

theorem yearStart_yearOf (day : Int) : yearStart (yearOf day) ≤ day := by
  have := yearStart_bounds (day * 400 / 146097 + 1970 - 1)
  unfold yearOf
  simp only
  split
  · omega
  · split <;> omega

theorem lt_yearStart_yearOf (day : Int) : day < yearStart (yearOf day + 1) := by
  have := yearStart_bounds (day * 400 / 146097 + 1970 + 1 + 1)
  unfold yearOf
  simp only
  split
  · rw [Int.sub_add_cancel]; omega
  · split <;> omega

/-- The month and the day of the month, both from 1, of a day of the year counted from 0. -/
def monthDay (month : Nat) : (lengths : List Nat) → (dayOfYear : Nat) → Nat × Nat
  | [], d => (month, d + 1)
  | n :: rest, d => if d < n then (month, d + 1) else monthDay (month + 1) rest (d - n)

namespace Date

/-- The number of a date's day. -/
def number (date : Date) : Int :=
  yearStart date.year + monthStart date.year date.month + (date.day - 1 : Nat)

/-- The date of a day. -/
def ofNumber (day : Int) : Date :=
  let year := yearOf day
  let (month, d) := monthDay 1 (monthLengths year) (day - yearStart year).toNat
  ⟨year, month, d⟩

/-- Whether the date exists and lies in the calendar. -/
def isValid (date : Date) : Bool :=
  minYear ≤ date.year && date.year ≤ maxYear && 1 ≤ date.day
    && date.day ≤ monthLength date.year date.month

/-- Days since the last Monday. -/
def daysSinceMonday (day : Int) : Nat := ((day + 3) % 7).toNat

/-- The date a number of months later, or earlier if negative; a day that the month does not have
becomes its last. -/
def addMonths (date : Date) (months : Int) : Date :=
  let total := date.year * 12 + (date.month - 1 : Nat) + months
  let year := total / 12
  let month := (total % 12).toNat + 1
  ⟨year, month, min date.day (monthLength year month)⟩

end Date

end LogSearch
