import LogSearch.Time.Date

/-!
# Instants

An instant is a day of the calendar, a second of the day and a nanosecond. The last second of a
minute may be a leap second: it then holds nanoseconds from 10⁹ up, and is written as second 60.

Instants are ordered by day, second and nanosecond. Moving by whole seconds out of a leap second
first leaves it: backwards the instant counts as one of the following second, forwards as one of
the second it repeats. A result outside the calendar is `none`.
-/

namespace LogSearch

/-- Nanoseconds in a second. -/
def nanosPerSecond : Nat := 1000000000

/-- Seconds in a day. -/
def secondsPerDay : Nat := 86400

/-- A point in time within the calendar. -/
structure Instant where
  day : Int
  second : Nat
  nano : Nat
  day_ge : minDay ≤ day
  day_le : day ≤ maxDay
  second_lt : second < secondsPerDay
  nano_lt : nano < 2 * nanosPerSecond
  /-- Only the last second of a minute is a leap second. -/
  leap_last : nanosPerSecond ≤ nano → second % 60 = 59
  deriving DecidableEq

namespace Instant

instance : Repr Instant where
  reprPrec t _ := repr (t.day, t.second, t.nano)

/-! ## Building -/

/-- The instant with given parts, if they are in their ranges. -/
def ofParts? (day : Int) (second nano : Nat) : Option Instant :=
  if h : minDay ≤ day ∧ day ≤ maxDay ∧ second < secondsPerDay ∧ nano < 2 * nanosPerSecond
      ∧ (nanosPerSecond ≤ nano → second % 60 = 59) then
    some ⟨day, second, nano, h.1, h.2.1, h.2.2.1, h.2.2.2.1, h.2.2.2.2⟩
  else none

/-- The start of 1970, which seconds are counted from. -/
def epoch : Instant := ⟨0, 0, 0, by decide, by decide, by decide, by decide, by decide⟩

instance : Inhabited Instant := ⟨epoch⟩

/-- The instant a number of seconds and nanoseconds after the epoch, if the calendar has it. -/
def ofEpoch? (seconds : Int) (nano : Nat) : Option Instant :=
  ofParts? (seconds / secondsPerDay) (seconds % secondsPerDay).toNat nano

/-- The instant at the start of a day, if the calendar has it. -/
def startOfDay? (day : Int) : Option Instant := ofParts? day 0 0

/-- The first instant of the same day. -/
def midnight (t : Instant) : Instant :=
  ⟨t.day, 0, 0, t.day_ge, t.day_le, by decide, by decide, by decide⟩

/-- The first instant of the same hour. -/
def startOfHour (t : Instant) : Instant :=
  ⟨t.day, t.second / 3600 * 3600, 0, t.day_ge, t.day_le,
    by have := t.second_lt; simp only [secondsPerDay] at *; omega, by decide,
    by simp [nanosPerSecond]⟩

/-- The first instant of the same minute. -/
def startOfMinute (t : Instant) : Instant :=
  ⟨t.day, t.second / 60 * 60, 0, t.day_ge, t.day_le,
    by have := t.second_lt; simp only [secondsPerDay] at *; omega, by decide,
    by simp [nanosPerSecond]⟩

/-- The date that the instant lies on. -/
def date (t : Instant) : Date := .ofNumber t.day

/-- Whether the instant lies in a leap second. -/
def isLeap (t : Instant) : Bool := nanosPerSecond ≤ t.nano

/-! ## Order -/

/-- Comparison by day, then second, then nanosecond. -/
def cmp (t u : Instant) : Ordering :=
  (compare t.day u.day).then ((compare t.second u.second).then (compare t.nano u.nano))

instance : Ord Instant := ⟨cmp⟩

/-- Not after. -/
def le (t u : Instant) : Bool := t.cmp u != .gt

/-- Before. -/
def lt (t u : Instant) : Bool := t.cmp u == .lt

instance : LE Instant := ⟨fun t u => t.le u⟩

instance : LT Instant := ⟨fun t u => t.lt u⟩

instance (t u : Instant) : Decidable (t ≤ u) := inferInstanceAs (Decidable (t.le u = true))

instance (t u : Instant) : Decidable (t < u) := inferInstanceAs (Decidable (t.lt u = true))

/-- The later of two instants. -/
def latest (t u : Instant) : Instant := if t ≤ u then u else t

/-! ## Moving -/

/-- The instant a number of seconds later, or earlier if negative. -/
def addSeconds? (t : Instant) (n : Int) : Option Instant :=
  if n = 0 then some t
  else
    let second : Int := if t.isLeap && n < 0 then t.second + 1 else t.second
    let nano := if t.isLeap then t.nano - nanosPerSecond else t.nano
    let total := second + n
    ofParts? (t.day + total / secondsPerDay) (total % secondsPerDay).toNat nano

/-- The instant a number of days later, or earlier if negative. -/
def addDays? (t : Instant) (n : Int) : Option Instant := t.addSeconds? (n * secondsPerDay)

/-- The instant a number of months later, or earlier if negative, at the same time of day. -/
def addMonths? (t : Instant) (n : Int) : Option Instant :=
  let date := t.date.addMonths n
  if date.isValid then ofParts? date.number t.second t.nano else none

/-! ## Measuring -/

/-- Seconds since the epoch; an instant in a leap second counts with the second it repeats. -/
def epochSeconds (t : Instant) : Int := t.day * secondsPerDay + t.second

/-- Milliseconds since the epoch. -/
def epochMillis (t : Instant) : Int := t.epochSeconds * 1000 + (t.nano / 1000000 : Nat)

/-- Nanoseconds from one instant to another. A leap second between two times of day is counted. -/
def nanosUntil (t u : Instant) : Int :=
  let leap : Int :=
    if t.second < u.second then if t.isLeap then 1 else 0
    else if u.second < t.second then if u.isLeap then -1 else 0
    else 0
  (u.epochSeconds - t.epochSeconds + leap) * nanosPerSecond + (u.nano - t.nano : Int)

/-- Whole seconds from one instant to another, cut toward zero. -/
def secondsUntil (t u : Instant) : Int := (t.nanosUntil u).tdiv nanosPerSecond

end Instant

end LogSearch
