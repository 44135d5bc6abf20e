import Mathlib
import LogSearch.Proofs.Time.Nesting

/-!
# Months in a row

Months are counted through the years: `firstOfMonth` is the first day of a month, `monthIndex` the
count of the month that a day lies in. The first is not after a day exactly if the month is not after
that of the day (`firstOfMonth_le_iff`), so the first days of months are steps between which the days
lie, however long the months are.

Months, quarters and years are runs of months that begin at a multiple of their length
(`Interval.firstDay_eq`), and adding months to the first day of a month leads to the first day of
another (`Instant.addMonths?_eq`).
-/

namespace LogSearch

/-- The first day of a month. -/
def firstOfMonth (index : Int) : Int := (⟨index / 12, (index % 12).toNat + 1, 1⟩ : Date).number

/-- The count of the month that a day lies in. -/
def monthIndex (day : Int) : Int := yearOf day * 12 + ((Date.ofNumber day).month - 1 : Nat)

/-! ## Months and their first days -/

theorem monthIndex_firstOfMonth (index : Int) : monthIndex (firstOfMonth index) = index := by
  have hfirst : 1 ≤ (index % 12).toNat + 1 := by omega
  obtain ⟨hyear, hmonth⟩ := date_of_first (index / 12) hfirst (by omega)
  rw [monthIndex, firstOfMonth, hyear, hmonth]
  omega

theorem number_eq_firstOfMonth (year : Int) {month : Nat} (h : 1 ≤ month) (h' : month ≤ 12) :
    (⟨year, month, 1⟩ : Date).number = firstOfMonth (year * 12 + (month - 1 : Nat)) := by
  have hyear : (year * 12 + (month - 1 : Nat) : Int) / 12 = year := by omega
  have hmonth : ((year * 12 + (month - 1 : Nat) : Int) % 12).toNat + 1 = month := by omega
  rw [firstOfMonth, hyear, hmonth]

/-- The first day of the month after one. -/
theorem firstOfMonth_succ (year : Int) {month : Nat} (h : 1 ≤ month) (h' : month ≤ 12) :
    firstOfMonth (year * 12 + (month - 1 : Nat) + 1)
      = yearStart year + monthStart year month + monthLength year month := by
  have hnext := monthStart_succ year h h'
  rcases Nat.lt_or_eq_of_le h' with hlt | rfl
  · have hindex : year * 12 + (month - 1 : Nat) + 1 = year * 12 + (month + 1 - 1 : Nat) := by omega
    rw [hindex, ← number_eq_firstOfMonth year (by omega) (by omega), number_first, hnext]
    omega
  · -- after the last month a year is over
    have hindex : year * 12 + (12 - 1 : Nat) + 1 = (year + 1) * 12 + (1 - 1 : Nat) := by omega
    have hsum := sum_monthLengths year
    have hlast : monthStart year (12 + 1) = (monthLengths year).sum := by
      rw [monthStart_eq_sum]
      rfl
    rw [hindex, ← number_eq_firstOfMonth (year + 1) (Nat.le_refl 1) (by decide), number_first]
    have hfirst : monthStart (year + 1) 1 = 0 := rfl
    omega

/-- A day lies between the first days of its month and of the next. -/
theorem firstOfMonth_monthIndex (day : Int) :
    firstOfMonth (monthIndex day) ≤ day ∧ day < firstOfMonth (monthIndex day + 1) := by
  obtain ⟨hyear, hpos, htwelve, hday, hlength, hnumber⟩ := ofNumber_spec day
  rw [Date.number, hyear] at hnumber
  rw [monthIndex, firstOfMonth_succ _ hpos htwelve, ← number_eq_firstOfMonth _ hpos htwelve,
    number_first]
  omega

theorem firstOfMonth_strictMono : StrictMono firstOfMonth := by
  refine strictMono_int_of_lt_succ fun index => ?_
  have h := (firstOfMonth_monthIndex (firstOfMonth index)).2
  rwa [monthIndex_firstOfMonth] at h

/-- **A month begins by a day exactly if the month of the day is not before it.** -/
theorem firstOfMonth_le_iff {index day : Int} : firstOfMonth index ≤ day ↔ index ≤ monthIndex day := by
  obtain ⟨hle, hlt⟩ := firstOfMonth_monthIndex day
  constructor
  · intro h
    by_contra hnot
    have hmono := firstOfMonth_strictMono.monotone (show monthIndex day + 1 ≤ index by omega)
    omega
  · intro h
    exact (firstOfMonth_strictMono.monotone h).trans hle

/-! ## Runs of months -/

/-- The first month of a month, of a quarter or of a year begins at a multiple of its length. -/
theorem Interval.firstDay_eq {first : Nat → Nat} {length : Int}
    (hlength : length = 1 ∨ length = 3 ∨ length = 12)
    (hfirst : ∀ month, 1 ≤ month → month ≤ 12 →
      1 ≤ first month ∧ ((first month - 1 : Nat) : Int) = ((month - 1 : Nat) : Int) / length * length)
    (day : Int) : firstDay first day = firstOfMonth (monthIndex day / length * length) := by
  obtain ⟨_, hpos, htwelve, _⟩ := ofNumber_spec day
  obtain ⟨hone, hmultiple⟩ := hfirst _ hpos htwelve
  have hlast : first (Date.ofNumber day).month ≤ 12 := by
    rcases hlength with rfl | rfl | rfl <;> omega
  rw [firstDay, number_eq_firstOfMonth _ hone hlast, hmultiple, monthIndex]
  congr 1
  rcases hlength with rfl | rfl | rfl <;> omega

namespace Instant

variable {t : Instant}

theorem startOfDay?_eq_ofEpoch? (day : Int) :
    startOfDay? day = ofEpoch? (day * secondsPerDay) 0 := by
  have hdiv : day * (secondsPerDay : Int) / secondsPerDay = day :=
    Int.mul_ediv_cancel day (by decide)
  have hmod : day * (secondsPerDay : Int) % secondsPerDay = 0 := Int.mul_emod_left day _
  rw [startOfDay?, ofEpoch?, hdiv, hmod]
  rfl

/-- Days after the calendar have no instants. -/
theorem startOfDay?_eq_none {day : Int} (h : maxDay < day) : startOfDay? day = none := by
  rw [startOfDay?, ofParts?, dif_neg (by omega)]

/-- **Months after the first instant of a month another month starts**, if the calendar has it. -/
theorem addMonths?_eq (hfirst : firstOfMonth (monthIndex t.day) = t.day) (hsecond : t.second = 0)
    (hnano : t.nano = 0) (months : Nat) :
    t.addMonths? months = startOfDay? (firstOfMonth (monthIndex t.day + months)) := by
  obtain ⟨hyear, hpos, htwelve, hday, hlength, hnumber⟩ := ofNumber_spec t.day
  have hbounds := yearOf_bounds t.day_ge t.day_le
  -- the day of the month is the first, which every month has
  have hone : (Date.ofNumber t.day).day = 1 := by
    rw [Date.number, hyear] at hnumber
    rw [monthIndex, ← number_eq_firstOfMonth _ hpos htwelve, number_first] at hfirst
    omega
  let index := monthIndex t.day + months
  have htotal : yearOf t.day * 12 + ((Date.ofNumber t.day).month - 1 : Nat) + (months : Int)
      = index := rfl
  have hexists : 1 ≤ monthLength (index / 12) ((index % 12).toNat + 1) :=
    monthLength_pos _ (by omega) (by omega)
  have hmin : min 1 (monthLength (index / 12) ((index % 12).toNat + 1)) = 1 :=
    Nat.min_eq_left hexists
  have hdate : t.date.addMonths months = ⟨index / 12, (index % 12).toNat + 1, 1⟩ := by
    simp only [date, Date.addMonths, hyear, hone, htotal, hmin]
  have hvalid : (t.date.addMonths months).isValid = true ↔ index / 12 ≤ maxYear := by
    have hlow : minYear ≤ index / 12 := by simp only [index, monthIndex]; omega
    rw [hdate]
    simp [Date.isValid, hlow, hexists]
  rw [addMonths?, hsecond, hnano]
  split
  · rw [hdate]
    rfl
  · next hnot =>
    rw [hvalid] at hnot
    have hlater := yearStart_le (show maxYear + 1 ≤ index / 12 by omega)
    have hafter : maxDay < firstOfMonth index := by
      rw [firstOfMonth, number_first, maxDay_eq]
      omega
    exact (startOfDay?_eq_none hafter).symm

end Instant

end LogSearch
