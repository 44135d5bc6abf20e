import LogSearch.Text.Lowercase
import LogSearch.Time.Instant

/-!
# Calendar intervals

The bucket widths of a histogram. `Interval.truncate?` finds the start of the bucket an instant
lies in, `Interval.next?` the start of the bucket after one. Weeks start on Monday, so the first
days of the calendar lie in a week that starts before it; everything else can be truncated.
-/

namespace LogSearch

/-- A unit of the calendar as a bucket width. -/
inductive Interval where
  | minute | hour | day | week | month | quarter | year
  deriving DecidableEq, Repr, Inhabited

namespace Interval

/-! ## Names -/

/-- The name of an interval. -/
def name : Interval → String
  | .minute => "minute"
  | .hour => "hour"
  | .day => "day"
  | .week => "week"
  | .month => "month"
  | .quarter => "quarter"
  | .year => "year"

/-- All intervals, from the shortest. -/
def all : List Interval := [.minute, .hour, .day, .week, .month, .quarter, .year]

/-- The interval as requests write it: one of its unit. -/
def unitText : Interval → String
  | .minute => "1m"
  | .hour => "1h"
  | .day => "1d"
  | .week => "1w"
  | .month => "1M"
  | .quarter => "1q"
  | .year => "1y"

/-- Names, and unit letters that do not depend on their case. -/
def words : List (String × Interval) :=
  [("minute", .minute), ("hour", .hour), ("h", .hour), ("day", .day), ("d", .day),
   ("week", .week), ("w", .week), ("month", .month), ("quarter", .quarter), ("q", .quarter),
   ("year", .year), ("y", .year)]

/-- Reads a name, or a unit letter with a one before it; `m` is the minute and `M` the month. -/
def ofText? (text : String) : Option Interval :=
  if text = "1m" || text = "m" then some .minute
  else if text = "1M" || text = "M" then some .month
  else
    let word := String.ofList ((lowercase text.toList).dropWhile (· == '1'))
    List.lookup word words

/-- What is said about a text that names no interval. -/
def unknownMessage (text : String) : String := "unknown histogram interval '" ++ text ++ "'"

/-- The interval with a name. -/
def ofName? (name : String) : Option Interval := all.find? fun i => i.name == name

/-! ## Buckets -/

/-- The first instant of a date. -/
def startOfDate? (date : Date) : Option Instant := Instant.startOfDay? date.number

/-- The first month of the quarter that a month lies in. -/
def quarterMonth (month : Nat) : Nat := (month - 1) / 3 * 3 + 1

/-- The start of the bucket that an instant lies in; `none` if it lies before the calendar. -/
def truncate? (interval : Interval) (t : Instant) : Option Instant :=
  match interval with
  | .minute => some t.startOfMinute
  | .hour => some t.startOfHour
  | .day => some t.midnight
  | .week => (t.addDays? (-(Date.daysSinceMonday t.day : Int))).map Instant.midnight
  | .month => startOfDate? { t.date with day := 1 }
  | .quarter => startOfDate? { t.date with month := quarterMonth t.date.month, day := 1 }
  | .year => startOfDate? { t.date with month := 1, day := 1 }

/-- The start of the bucket after the one that starts at an instant; `none` if it lies after the
calendar. -/
def next? (interval : Interval) (start : Instant) : Option Instant :=
  match interval with
  | .minute => start.addSeconds? 60
  | .hour => start.addSeconds? 3600
  | .day => start.addDays? 1
  | .week => start.addDays? 7
  | .month => start.addMonths? 1
  | .quarter => start.addMonths? 3
  | .year => start.addMonths? 12

end Interval

end LogSearch
