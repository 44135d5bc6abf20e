import LogSearch.Proofs.Time.Back
import LogSearch.Proofs.Time.Tiling

/-!
# The ends of the calendar

The calendar has a first and a last day, and a computation with instants may lead past either. What
the result should be is said apart from how it is computed: the window of a day reaches from its
midnight to the next (`Window.IsDay`), an expression has two ends (`Keyword.Spans`), and the start of a
bucket is followed by the instant one interval later (`Interval.IsNext`). Where the calendar does not
have these instants there should be no result.

Stepping to the next bucket keeps to this (`Interval.next?_eq_some_iff`). Three other computations do
so with one exception each, where they cannot go on: the window of the last day
(`Window.ofDate_signals_iff`), the day before the first one (`Keyword.signals_iff`), and the start of the
week that the first days lie in (`Interval.truncate?_isSome_iff`).
-/

namespace LogSearch

/-! ## Midnights -/

namespace Instant

variable {t u : Instant} {day : Int}

/-- The first instant of a day. -/
structure IsMidnight (t : Instant) (day : Int) : Prop where
  day : t.day = day
  second : t.second = 0
  nano : t.nano = 0

theorem isMidnight_midnight (t : Instant) : t.midnight.IsMidnight t.day := ⟨rfl, rfl, rfl⟩

theorem startOfDay?_eq_some_iff : startOfDay? day = some t ↔ t.IsMidnight day := by
  rw [startOfDay?]
  constructor
  · intro h
    obtain ⟨hday, hsecond, hnano⟩ := ofParts?_eq_some h
    exact ⟨hday, by simpa using hsecond, hnano⟩
  · rintro ⟨rfl, hsecond, hnano⟩
    rw [← ofParts?_self t, hsecond, hnano]

theorem IsMidnight.eq (ht : t.IsMidnight day) (hu : u.IsMidnight day) : t = u :=
  Option.some.inj ((startOfDay?_eq_some_iff.mpr ht).symm.trans (startOfDay?_eq_some_iff.mpr hu))

theorem IsMidnight.eq_midnight (h : u.IsMidnight t.day) : u = t.midnight :=
  h.eq t.isMidnight_midnight

/-- Days are counted from midnight to midnight. -/
theorem IsMidnight.addDays?_eq (h : t.IsMidnight day) (n : Int) :
    t.addDays? n = startOfDay? (day + n) := by
  have hsecond : t.epochSeconds + n * secondsPerDay = (day + n) * secondsPerDay := by
    rw [epochSeconds, h.day, h.second, Int.add_mul, Int.natCast_zero, Int.add_zero]
  rw [addDays?, addSeconds?_eq_ofEpoch? h.nano, hsecond, startOfDay?_eq_ofEpoch?]

end Instant

/-! ## The window of a day -/

/-- A date of the calendar with leap years, which goes on past both of its ends. -/
structure Date.Exists (date : Date) : Prop where
  month_ge : 1 ≤ date.month
  month_le : date.month ≤ 12
  day_ge : 1 ≤ date.day
  day_le : date.day ≤ monthLength date.year date.month

/-- From the midnight of a date to the next. -/
structure Window.IsDay (w : Window) (date : Date) : Prop where
  isDate : date.Exists
  start : w.start.IsMidnight date.number
  stop : w.stop.IsMidnight (date.number + 1)

theorem Date.Exists.of_isValid {date : Date} (h : date.isValid = true) : date.Exists := by
  simp only [isValid, Bool.and_eq_true, decide_eq_true_eq] at h
  obtain ⟨⟨-, hday⟩, hlength⟩ := h
  -- a month that there is not has no days
  have hmonth : 1 ≤ date.month ∧ date.month ≤ 12 := by
    by_contra hno
    have hzero : monthLength date.year date.month = 0 := by
      rw [monthLength]
      split
      · rfl
      · have hlengths : (monthLengths date.year).length = 12 := rfl
        exact List.getD_eq_default _ _ (by omega)
    omega
  exact ⟨hmonth.1, hmonth.2, hday, hlength⟩

theorem Date.Exists.ofNumber_number {date : Date} (h : date.Exists) :
    Date.ofNumber date.number = date :=
  Date.ofNumber_number h.month_ge h.month_le h.day_ge h.day_le

/-- The calendar has a date exactly if it has the day. -/
theorem Date.Exists.isValid_iff {date : Date} (h : date.Exists) :
    date.isValid = true ↔ minDay ≤ date.number ∧ date.number ≤ maxDay := by
  constructor
  · intro hvalid
    simp only [isValid, Bool.and_eq_true, decide_eq_true_eq] at hvalid
    obtain ⟨⟨⟨hlow, hhigh⟩, -⟩, -⟩ := hvalid
    have hyear : yearOf date.number = date.year := by
      rw [← (ofNumber_spec date.number).1, h.ofNumber_number]
    have hstart := yearStart_yearOf date.number
    have hnext := lt_yearStart_yearOf date.number
    rw [hyear] at hstart hnext
    have hfirst := yearStart_le hlow
    have hlast := yearStart_le (show date.year + 1 ≤ maxYear + 1 by omega)
    rw [minDay_eq, maxDay_eq]
    omega
  · rintro ⟨hlow, hhigh⟩
    rw [← h.ofNumber_number]
    exact ofNumber_isValid hlow hhigh

namespace Window

/-- The last day of the calendar. -/
def lastDate : Date := ⟨maxYear, 12, 31⟩

theorem eq_lastDate_iff {date : Date} : date = lastDate ↔ date.Exists ∧ date.number = maxDay := by
  constructor
  · rintro rfl
    exact ⟨⟨by decide, by decide, by decide, by decide⟩, by decide⟩
  · rintro ⟨hdate, hnumber⟩
    rw [← hdate.ofNumber_number, hnumber]
    decide

theorem IsDay.eq {w v : Window} {date : Date} (hw : w.IsDay date) (hv : v.IsDay date) : w = v := by
  cases w
  cases v
  rw [mk.injEq]
  exact ⟨hw.start.eq hv.start, hw.stop.eq hv.stop⟩

/-- The window of a date that the calendar has, with the day after it. -/
theorem ofDate_of_lt {date : Date} (hdate : date.Exists) (hlow : minDay ≤ date.number)
    (hhigh : date.number < maxDay) : ∃ w, ofDate date = .ok (some w) ∧ w.IsDay date := by
  have hvalid : date.isValid = true := hdate.isValid_iff.mpr ⟨hlow, Int.le_of_lt hhigh⟩
  obtain ⟨start, hstart⟩ := Option.isSome_iff_exists.mp
    (startOfDay?_isSome hlow (Int.le_of_lt hhigh))
  have hnext : minDay ≤ date.number + 1 := by omega
  obtain ⟨stop, hstop⟩ := Option.isSome_iff_exists.mp (startOfDay?_isSome hnext hhigh)
  have hmidnight := Instant.startOfDay?_eq_some_iff.mp hstart
  refine ⟨⟨start, stop⟩, ?_, hdate, hmidnight, Instant.startOfDay?_eq_some_iff.mp hstop⟩
  rw [ofDate, if_pos hvalid]
  simp only [hstart, hmidnight.addDays?_eq, hstop]

/-- There is no instant after the last day. -/
theorem ofDate_lastDate : ofDate lastDate = .error .calendarEnd := by decide +kernel

theorem ofDate_of_not_isValid {date : Date} (h : date.isValid = false) : ofDate date = .ok none := by
  rw [ofDate, h]
  rfl

/-- **The window of a day is found, or found not to be there, except for the last day.** -/
theorem ofDate_signals_iff (date : Date) :
    (∃ found, ofDate date = .ok found ∧ ∀ w, found = some w ↔ w.IsDay date) ↔ date ≠ lastDate := by
  constructor
  · rintro ⟨found, hfound, -⟩ rfl
    rw [ofDate_lastDate] at hfound
    cases hfound
  · intro hne
    by_cases hvalid : date.isValid = true
    · have hdate := Date.Exists.of_isValid hvalid
      obtain ⟨hlow, hhigh⟩ := hdate.isValid_iff.mp hvalid
      have hlast : date.number ≠ maxDay := fun hnumber =>
        hne (eq_lastDate_iff.mpr ⟨hdate, hnumber⟩)
      obtain ⟨w, hw, hday⟩ := ofDate_of_lt hdate hlow (by omega)
      refine ⟨some w, hw, fun v => ?_⟩
      rw [Option.some_inj]
      exact ⟨fun h => h ▸ hday, fun hv => hday.eq hv⟩
    · refine ⟨none, ofDate_of_not_isValid (Bool.not_eq_true _ ▸ hvalid), fun w => ?_⟩
      refine iff_of_false (Option.some_ne_none w).symm fun hday => hvalid ?_
      refine hday.isDate.isValid_iff.mpr ?_
      rw [← hday.start.day]
      exact ⟨w.start.day_ge, w.start.day_le⟩

end Window

/-! ## Expressions -/

namespace Keyword

/-- The two instants between which an expression covers everything. -/
def Spans (now : Instant) : Keyword → (start stop : Instant) → Prop
  | .back amount unit, start, stop => unit.IsBefore amount now start ∧ stop = now
  | .today, start, stop => start.IsMidnight now.day ∧ stop = now
  | .yesterday, start, stop => start.IsMidnight (now.day - 1) ∧ stop.IsMidnight now.day
  | .since first, start, stop => start = first ∧ stop = now
  | .between first last, start, stop => start = first ∧ stop = last

/-- The window is made of the ends, and there is none if the calendar does not have them. -/
structure Signals (keyword : Keyword) (now : Instant) : Prop where
  window : ∀ start stop, keyword.Spans now start stop →
    keyword.window now = some (Window.ofBounds start stop)
  none : (∀ start stop, ¬keyword.Spans now start stop) → keyword.window now = none

variable {now : Instant}

theorem window_yesterday {start : Instant} (h : start.IsMidnight (now.day - 1)) :
    yesterday.window now = some (Window.ofBounds start now.midnight) := by
  have hstart : now.midnight.addDays? (-1) = some start := by
    rw [now.isMidnight_midnight.addDays?_eq]
    exact Instant.startOfDay?_eq_some_iff.mpr h
  rw [Keyword.window, hstart]

/-- Before the first day of the calendar there is none, and this is not signalled. -/
theorem window_yesterday_of_minDay (h : now.day = minDay) :
    yesterday.window now = some (.error .calendarEnd) := by
  have hnone : now.midnight.addDays? (-1) = Option.none := by
    rw [now.isMidnight_midnight.addDays?_eq, Instant.startOfDay?, Instant.ofParts?, dif_neg]
    omega
  rw [Keyword.window, hnone]

/-- **The window of an expression is found, or found not to be there, except for the day before the
first.** -/
theorem signals_iff (keyword : Keyword) (now : Instant) :
    keyword.Signals now ↔ ¬(keyword = .yesterday ∧ now.day = minDay) := by
  constructor
  · rintro hsignals ⟨rfl, hday⟩
    have hno : ∀ start stop, ¬yesterday.Spans now start stop := by
      rintro start stop ⟨hstart, -⟩
      have hlow := start.day_ge
      rw [hstart.day] at hlow
      omega
    have hwindow := hsignals.none hno
    rw [window_yesterday_of_minDay hday] at hwindow
    cases hwindow
  · intro hnot
    cases keyword with
    | back amount unit =>
      refine ⟨?_, fun hno => window_back_eq_none fun start h => hno start now ⟨h, rfl⟩⟩
      rintro start stop ⟨hbefore, rfl⟩
      rw [Keyword.window, TimeUnit.before?_eq_some_iff.mpr hbefore]
      rfl
    | today =>
      refine ⟨?_, fun hno => absurd ⟨now.isMidnight_midnight, rfl⟩ (hno now.midnight now)⟩
      rintro start stop ⟨hstart, rfl⟩
      rw [hstart.eq_midnight]
      rfl
    | yesterday =>
      have hday : minDay ≤ now.day - 1 := by
        have hlow := now.day_ge
        have hne : now.day ≠ minDay := fun h => hnot ⟨rfl, h⟩
        omega
      have hhigh : now.day - 1 ≤ maxDay := by
        have := now.day_le
        omega
      obtain ⟨first, hfirst⟩ := Option.isSome_iff_exists.mp (startOfDay?_isSome hday hhigh)
      have hmidnight := Instant.startOfDay?_eq_some_iff.mp hfirst
      refine ⟨?_, fun hno =>
        absurd ⟨hmidnight, now.isMidnight_midnight⟩ (hno first now.midnight)⟩
      rintro start stop ⟨hstart, hstop⟩
      rw [window_yesterday hstart, hstop.eq_midnight]
    | since first =>
      refine ⟨?_, fun hno => absurd ⟨rfl, rfl⟩ (hno first now)⟩
      rintro start stop ⟨rfl, rfl⟩
      rfl
    | between first last =>
      refine ⟨?_, fun hno => absurd ⟨rfl, rfl⟩ (hno first last)⟩
      rintro start stop ⟨rfl, rfl⟩
      rfl

theorem window_eq_calendarEnd_iff {keyword : Keyword} :
    keyword.window now = some (.error .calendarEnd) ↔ keyword = .yesterday ∧ now.day = minDay := by
  constructor
  · intro h
    by_contra hnot
    have hsignals := (signals_iff keyword now).mpr hnot
    by_cases hends : ∃ start stop, keyword.Spans now start stop
    · obtain ⟨start, stop, hends⟩ := hends
      rw [hsignals.window start stop hends, Option.some_inj, Window.ofBounds] at h
      split at h <;> cases h
    · have hno : ∀ start stop, ¬keyword.Spans now start stop :=
        fun start stop h => hends ⟨start, stop, h⟩
      rw [hsignals.none hno] at h
      cases h
  · rintro ⟨rfl, hday⟩
    exact window_yesterday_of_minDay hday

/-- The expression that a text is, without the blanks around it. -/
def IsReadAs (text : String) (keyword : Keyword) : Prop :=
  ∃ rest, read? (trim text.toList) = some (keyword, rest) ∧ (trim rest).isEmpty = true

end Keyword

/-- **Reading an expression goes wrong at the first day only**, for the day before it. -/
theorem readKeyword_calendarEnd_iff (text : String) (now : Instant) :
    readKeyword text now = .error .calendarEnd
      ↔ Keyword.IsReadAs text .yesterday ∧ now.day = minDay := by
  rw [readKeyword]
  cases hread : Keyword.read? (trim text.toList) with
  | none => simp [Keyword.IsReadAs, hread]
  | some found =>
    obtain ⟨keyword, rest⟩ := found
    have hyesterday : Keyword.IsReadAs text .yesterday
        ↔ keyword = .yesterday ∧ (trim rest).isEmpty = true := by
      simp [Keyword.IsReadAs, hread]
    rw [hyesterday, and_right_comm, ← Keyword.window_eq_calendarEnd_iff]
    dsimp only
    by_cases hrest : (trim rest).isEmpty = true
    · rw [if_pos hrest]
      cases keyword.window now with
      | none => simp
      | some result => simp [hrest]
    · simp [hrest]

/-! ## Units after an instant -/

namespace Instant

/-- Moving on, an instant counts with its own second. -/
theorem addSeconds?_of_pos {t : Instant} {n : Int} (hn : 0 < n) :
    t.addSeconds? n = ofEpoch? (t.epochSeconds + n) t.subSecond := by
  have hlt := t.nano_lt
  have hforward : (t.isLeap && decide (n < 0)) = false := by
    rw [decide_eq_false (by omega), Bool.and_false]
  have hnano : (if t.isLeap then t.nano - nanosPerSecond else t.nano) = t.subSecond := by
    rw [subSecond, isLeap]
    simp only [decide_eq_true_eq]
    rw [nanosPerSecond] at *
    split <;> omega
  rw [addSeconds?, if_neg (by omega), ofEpoch?]
  simp only [hforward, hnano, Bool.false_eq_true, if_false, epochSeconds]
  rw [secondsPerDay]
  congr 1 <;> omega

end Instant

/-- So many seconds after an instant; one in a leap second counts as one in the second it repeats. -/
structure SecondsAfter (seconds : Nat) (start next : Instant) : Prop where
  second : next.epochSeconds = start.epochSeconds + seconds
  nano : next.nano = start.subSecond

/-- So many months after an instant, at the same time of day. -/
structure MonthsAfter (months : Nat) (start next : Instant) : Prop where
  month : monthIndex next.day = monthIndex start.day + months
  /-- The same day of the month, or the last if the month is too short. -/
  day : next.date.day = min start.date.day (monthLength next.date.year next.date.month)
  second : next.second = start.second
  nano : next.nano = start.nano

section

variable {start next : Instant}

theorem secondsAfter_iff {seconds : Nat} (hpos : 0 < seconds) :
    start.addSeconds? seconds = some next ↔ SecondsAfter seconds start next := by
  rw [Instant.addSeconds?_of_pos (by omega), Instant.ofEpoch?_eq_some_iff]
  exact ⟨fun h => ⟨h.1, h.2⟩, fun h => ⟨h.second, h.nano⟩⟩

theorem monthsAfter_iff {months : Nat} :
    start.addMonths? months = some next ↔ MonthsAfter months start next := by
  rw [Instant.addMonths?_eq_some_iff]
  constructor
  · rintro ⟨hmonth, hday, hsecond, hnano⟩
    exact ⟨hmonth, hday, hsecond, hnano⟩
  · rintro ⟨hmonth, hday, hsecond, hnano⟩
    exact ⟨hmonth, hday, hsecond, hnano⟩

end

/-! ## Buckets -/

namespace Interval

variable {interval : Interval} {t start next : Instant}

/-- The calendar begins on a Thursday, and its first four days lie in a week that begins before it. -/
theorem truncate?_week_eq_none (h : t.day < minDay + 4) : week.truncate? t = none := by
  have hlow := t.day_ge
  have hlt := t.second_lt
  rw [truncate?, Option.map_eq_none_iff]
  cases hmonday : t.addDays? (-(Date.daysSinceMonday t.day : Int)) with
  | none => rfl
  | some monday =>
    have hmonday_ge := monday.day_ge
    have hback : Date.daysSinceMonday t.day = (t.day - minDay).toNat + 3 := by
      rw [Date.daysSinceMonday]
      rw [minDay] at *
      omega
    obtain ⟨hseconds, -⟩ := Instant.addSeconds?_eq_some (by rw [hback, secondsPerDay]; omega) hmonday
    rw [hback, Instant.epochSeconds, Instant.epochSeconds] at hseconds
    rw [secondsPerDay] at *
    split at hseconds <;> omega

/-- **Every instant has a bucket, except in the week that begins before the calendar.** -/
theorem truncate?_isSome_iff :
    (interval.truncate? t).isSome ↔ ¬(interval = .week ∧ t.day < minDay + 4) := by
  constructor
  · rintro hsome ⟨rfl, hday⟩
    rw [truncate?_week_eq_none hday] at hsome
    cases hsome
  · intro hnot
    by_cases hweek : interval = .week
    · subst hweek
      have hday : minDay + 4 ≤ t.day := Int.not_lt.mp fun h => hnot ⟨rfl, h⟩
      refine truncate?_isSome_of_startDay ?_
      rw [startDay, Date.daysSinceMonday]
      rw [minDay] at *
      omega
    · exact truncate?_isSome fun heq => absurd heq hweek

/-- One interval after an instant. -/
def IsNext (interval : Interval) : (start next : Instant) → Prop :=
  match interval with
  | .minute => SecondsAfter 60
  | .hour => SecondsAfter 3600
  | .day => SecondsAfter 86400
  | .week => SecondsAfter 604800
  | .month => MonthsAfter 1
  | .quarter => MonthsAfter 3
  | .year => MonthsAfter 12

/-- **The instant that is found is one interval later**, and it is found if the calendar has it. -/
theorem next?_eq_some_iff : interval.next? start = some next ↔ interval.IsNext start next := by
  cases interval with
  | month | quarter | year => exact monthsAfter_iff
  | minute => exact secondsAfter_iff (Nat.succ_pos 59)
  | hour => exact secondsAfter_iff (Nat.succ_pos 3599)
  | day => exact secondsAfter_iff (Nat.succ_pos 86399)
  | week => exact secondsAfter_iff (Nat.succ_pos 604799)

end Interval

end LogSearch
