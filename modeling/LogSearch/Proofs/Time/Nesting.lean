import Mathlib
import LogSearch.Proofs.Time.Bucket

/-!
# Buckets within buckets

A day is made of hours and an hour of minutes, weeks and months are made of days, quarters of months
and years of quarters (`Interval.Finer`); weeks and months overlap. Where buckets are made of finer
ones, the finer one around an instant starts in the same bucket as the instant
(`Finer.startSecond_startSecond`), so the start of a finer bucket, taken as an instant, is enough to
find the coarser one (`Finer.bucketOf?_start`).

For seconds, days and weeks this is arithmetic. For the units that are made of months it rests on the
date of the first of a month, which is in that month and year (`date_of_first`).
-/

namespace LogSearch

/-- The start of a second is found from the second. -/
theorem Instant.ofEpoch?_epochSeconds {t : Instant} (h : t.nano = 0) :
    ofEpoch? t.epochSeconds 0 = some t := by
  obtain ⟨day, second, nano, hge, hle, hsecond, hnano, hleap⟩ := t
  obtain rfl : nano = 0 := h
  have hday : (day * secondsPerDay + second : Int) / secondsPerDay = day := by
    simp only [secondsPerDay] at *
    omega
  have hrest : ((day * secondsPerDay + second : Int) % secondsPerDay).toNat = second := by
    simp only [secondsPerDay] at *
    omega
  rw [ofEpoch?, epochSeconds, hday, hrest, ofParts?,
    dif_pos ⟨hge, hle, hsecond, hnano, hleap⟩]

/-! ## The first of a month -/

/-- A year is the only one that its days lie in. -/
theorem yearOf_eq {day year : Int} (hstart : yearStart year ≤ day)
    (hnext : day < yearStart (year + 1)) : yearOf day = year := by
  have hown := yearStart_yearOf day
  have hend := lt_yearStart_yearOf day
  rcases lt_trichotomy (yearOf day) year with hlt | heq | hgt
  · have := yearStart_le (show yearOf day + 1 ≤ year from hlt)
    omega
  · exact heq
  · have := yearStart_le (show year + 1 ≤ yearOf day from hgt)
    omega

theorem monthLength_pos (year : Int) {month : Nat} (h : 1 ≤ month) (h' : month ≤ 12) :
    1 ≤ monthLength year month := by
  rw [monthLength, if_neg (Nat.ne_of_gt h)]
  interval_cases month using h, h' <;> simp [monthLengths]
  split <;> decide

/-- A month is the only one of its year that its days lie in. -/
theorem month_eq {day : Int} {month : Nat}
    (hstart : yearStart (yearOf day) + monthStart (yearOf day) month ≤ day)
    (hnext : day < yearStart (yearOf day) + monthStart (yearOf day) (month + 1)) :
    (Date.ofNumber day).month = month := by
  obtain ⟨hyear, hpos, htwelve, _, hlength, hnumber⟩ := ofNumber_spec day
  rw [Date.number, hyear] at hnumber
  have hend := monthStart_succ (yearOf day) hpos htwelve
  rcases lt_trichotomy (Date.ofNumber day).month month with hlt | heq | hgt
  · have := monthStart_le (yearOf day) (show (Date.ofNumber day).month + 1 ≤ month from hlt)
    omega
  · exact heq
  · have := monthStart_le (yearOf day) (show month + 1 ≤ (Date.ofNumber day).month from hgt)
    omega

/-- **A date that exists is that of its day.** -/
theorem Date.ofNumber_number {date : Date} (h : 1 ≤ date.month) (h' : date.month ≤ 12)
    (hday : 1 ≤ date.day) (hlength : date.day ≤ monthLength date.year date.month) :
    ofNumber date.number = date := by
  obtain ⟨year, month, day⟩ := date
  have hnext := monthStart_succ year h h'
  have hlast : monthStart year (month + 1) ≤ (monthLengths year).sum := by
    rw [monthStart_eq_sum]
    exact (List.take_sublist _ _).sum_le_sum (by simp)
  have hsum := sum_monthLengths year
  simp only at hday hlength hnext
  obtain ⟨n, hn⟩ : ∃ n, n = yearStart year + monthStart year month + (day - 1 : Nat) := ⟨_, rfl⟩
  have hnumber : (⟨year, month, day⟩ : Date).number = n := hn.symm
  rw [hnumber]
  have hyear : yearOf n = year := yearOf_eq (by omega) (by omega)
  have hmonth : (ofNumber n).month = month := by
    refine month_eq ?_ ?_ <;> rw [hyear] <;> omega
  obtain ⟨hsame, _, _, hpos, _, hback⟩ := ofNumber_spec n
  -- year and month are known, so the day is what is left of the number
  rw [number, hsame, hyear, hmonth] at hback
  have hrest : (ofNumber n).day = day := by omega
  cases hdate : ofNumber n with
  | mk year' month' day' =>
    rw [hdate] at hsame hmonth hrest
    rw [Date.mk.injEq]
    exact ⟨hsame.trans hyear, hmonth, hrest⟩

/-- **The first of a month lies in that month and that year.** -/
theorem date_of_first (year : Int) {month : Nat} (h : 1 ≤ month) (h' : month ≤ 12) :
    yearOf (⟨year, month, 1⟩ : Date).number = year
      ∧ (Date.ofNumber (⟨year, month, 1⟩ : Date).number).month = month := by
  have hdate : Date.ofNumber (⟨year, month, 1⟩ : Date).number = ⟨year, month, 1⟩ :=
    Date.ofNumber_number h h' (Nat.le_refl 1) (monthLength_pos year h h')
  rw [← (ofNumber_spec _).1, hdate]
  exact ⟨rfl, rfl⟩

namespace Interval

/-! ## Finer intervals -/

/-- Every bucket of the second interval is made of buckets of the first. -/
inductive Finer : Interval → Interval → Prop where
  | minute_hour : Finer .minute .hour
  | hour_day : Finer .hour .day
  | day_week : Finer .day .week
  | day_month : Finer .day .month
  | month_quarter : Finer .month .quarter
  | quarter_year : Finer .quarter .year
  | trans {fine middle coarse : Interval} :
    Finer fine middle → Finer middle coarse → Finer fine coarse

/-- The first of some months around the first of others. -/
theorem firstDay_firstDay (first : Nat → Nat) {inner : Nat → Nat}
    (h : ∀ month, 1 ≤ month → 1 ≤ inner month ∧ inner month ≤ month) (day : Int) :
    firstDay first (firstDay inner day) = firstDay (first ∘ inner) day := by
  obtain ⟨_, hpos, htwelve, _⟩ := ofNumber_spec day
  obtain ⟨hlow, hhigh⟩ := h _ hpos
  obtain ⟨hyear, hmonth⟩ := date_of_first (yearOf day) hlow (hhigh.trans htwelve)
  rw [firstDay, firstDay, hyear, hmonth]
  rfl

theorem one_le_quarterMonth (month : Nat) : 1 ≤ quarterMonth month := Nat.le_add_left 1 _

/-- A bucket starts on the day that the day of the second asks for. -/
theorem startSecond_div (interval : Interval) (second : Int) :
    interval.startSecond second / secondsPerDay = interval.startDay (second / secondsPerDay) := by
  have hday : ∀ day : Int, day * (secondsPerDay : Int) / secondsPerDay = day :=
    fun day => Int.mul_ediv_cancel day (by decide)
  cases interval with
  | minute =>
    simp only [startSecond, startDay, secondsPerDay]
    omega
  | hour =>
    simp only [startSecond, startDay, secondsPerDay]
    omega
  | _ => exact hday _

/-- Among buckets of whole days it is enough to look at days. -/
theorem startSecond_startSecond_of_days {fine coarse : Interval}
    (hcoarse : coarse ≠ .minute ∧ coarse ≠ .hour)
    (h : ∀ day, coarse.startDay (fine.startDay day) = coarse.startDay day) (second : Int) :
    coarse.startSecond (fine.startSecond second) = coarse.startSecond second := by
  have hdays : ∀ second, coarse.startSecond second
      = coarse.startDay (second / secondsPerDay) * secondsPerDay := by
    intro second
    cases coarse with
    | minute => exact absurd rfl hcoarse.1
    | hour => exact absurd rfl hcoarse.2
    | _ => rfl
  rw [hdays, hdays, startSecond_div, h]

/-- **A finer bucket around a second starts in the same coarser bucket.** -/
theorem Finer.startSecond_startSecond {fine coarse : Interval} (h : Finer fine coarse)
    (second : Int) :
    coarse.startSecond (fine.startSecond second) = coarse.startSecond second := by
  induction h generalizing second with
  | minute_hour =>
    simp only [startSecond]
    omega
  | hour_day => exact startSecond_startSecond_of_days (by decide) (fun _ => rfl) second
  | day_week => exact startSecond_startSecond_of_days (by decide) (fun _ => rfl) second
  | day_month => exact startSecond_startSecond_of_days (by decide) (fun _ => rfl) second
  | month_quarter =>
    refine startSecond_startSecond_of_days (by decide) (fun day => ?_) second
    exact firstDay_firstDay quarterMonth (fun month hpos => ⟨hpos, Nat.le_refl month⟩) day
  | quarter_year =>
    refine startSecond_startSecond_of_days (by decide) (fun day => ?_) second
    exact firstDay_firstDay (fun _ => 1)
      (fun month hpos => ⟨one_le_quarterMonth month, quarterMonth_le hpos⟩) day
  | trans _ _ ihfine ihcoarse =>
    -- the finest start keeps the middle one, which decides the coarsest
    rw [← ihcoarse, ihfine, ihcoarse]

/-! ## Starts as instants -/

/-- The second that the bucket of a second starts at. -/
def bucketOf? (interval : Interval) (second : Int) : Option Int :=
  ((Instant.ofEpoch? second 0).bind interval.truncate?).map Instant.epochSeconds

/-- A bucket that does not start before the calendar has a start. -/
theorem truncate?_isSome_of_startDay {interval : Interval} {t : Instant}
    (h : minDay ≤ interval.startDay t.day) : (interval.truncate? t).isSome := by
  by_cases hweek : interval = .week
  · subst hweek
    have hback : minDay ≤ t.day - Date.daysSinceMonday t.day := h
    rw [truncate?, Option.isSome_map]
    exact addDays?_isSome (by omega)
  · exact truncate?_isSome fun heq => absurd heq hweek

/-- **The start of a finer bucket lies in a coarser one**, unless that starts before the calendar. -/
theorem Finer.bucketOf?_start {fine coarse : Interval} (h : Finer fine coarse) {t start : Instant}
    (hleap : t.isLeap = false) (hstart : fine.truncate? t = some start)
    (hcoarse : minDay ≤ coarse.startDay t.day) :
    coarse.bucketOf? start.epochSeconds = some (coarse.startSecond start.epochSeconds) := by
  obtain ⟨hnano, hsecond⟩ := truncate?_eq_some hstart
  have hnested : coarse.startDay start.day = coarse.startDay t.day := by
    rw [← Instant.epochSeconds_div, ← Instant.epochSeconds_div, ← startSecond_div,
      ← startSecond_div, hsecond fun _ => hleap, h.startSecond_startSecond]
  obtain ⟨first, hfirst⟩ :=
    Option.isSome_iff_exists.mp (truncate?_isSome_of_startDay (hnested ▸ hcoarse))
  have hregular : start.isLeap = false := by simp [Instant.isLeap, hnano, nanosPerSecond]
  rw [bucketOf?, Instant.ofEpoch?_epochSeconds hnano, Option.bind_some, hfirst, Option.map_some,
    (truncate?_eq_some hfirst).2 fun _ => hregular]

end Interval

end LogSearch
