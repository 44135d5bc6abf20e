import LogSearch.Json.Record
import LogSearch.Text.Quoted
import LogSearch.Time.Text

/-!
# Windows and time ranges

A `Window` is a pair of instants that a search covers, both ends included. A `TimeRange` is what
someone asks for: two instants, the last so many seconds, or an expression in words.
`TimeRange.resolve` turns it into a window, given the present instant and a reader for
expressions.
-/

namespace LogSearch

/-- Two instants. A resolved window has its start not after its stop. -/
structure Window where
  start : Instant
  stop : Instant
  deriving DecidableEq, Repr, Inhabited

/-- Why a time range has no window. -/
inductive TimeRangeError where
  /-- The start is after the stop. -/
  | invalidBounds (start stop : Instant)
  /-- The expression is not understood, or its window leaves the calendar. -/
  | invalidKeyword (detail : String)
  /-- A step of the computation left the calendar and cannot go on. -/
  | calendarEnd
  deriving DecidableEq, Repr

/-- The text of the error. -/
def TimeRangeError.message : TimeRangeError → String
  | .invalidBounds start stop =>
    "Invalid time range: " ++ start.display ++ " is after " ++ stop.display
  | .invalidKeyword detail => "Invalid keyword time range: " ++ detail
  | .calendarEnd => "The calendar ends"

namespace Window

/-- The window between two instants in order. -/
def ofBounds (start stop : Instant) : Except TimeRangeError Window :=
  if start ≤ stop then .ok ⟨start, stop⟩ else .error (.invalidBounds start stop)

/-- The window from the start of a day to the start of the next; `none` if the calendar does not
have the day. The last day of the calendar has no next one. -/
def ofDate (date : Date) : Except TimeRangeError (Option Window) :=
  if date.isValid then
    match Instant.startOfDay? date.number with
    | none => .ok none
    | some start =>
      match start.addDays? 1 with
      | none => .error .calendarEnd
      | some stop => .ok (some ⟨start, stop⟩)
  else .ok none

/-- The whole seconds of the window. -/
def seconds (w : Window) : Int := w.start.secondsUntil w.stop

/-- The window as a record. -/
def toJson (w : Window) : Json :=
  .obj [("from", .str w.start.render), ("to", .str w.stop.render)]

end Window

/-- An instant out of a record. -/
def Json.toInstant? : Json → Option Instant
  | .str s => Instant.read? s
  | _ => none

/-- A window out of a record; the order of its ends is not checked. -/
def Window.ofJson? (json : Json) : Option Window := do
  let [start, stop] ← json.slots ["from", "to"] | none
  return ⟨← start.required Json.toInstant?, ← stop.required Json.toInstant?⟩

/-! ## Time ranges -/

/-- What a search is asked to cover. -/
inductive TimeRange where
  | absolute (start stop : Instant)
  /-- The last seconds up to now; zero is all time since the epoch. -/
  | relative (seconds : UInt64)
  /-- An expression in words. -/
  | keyword (text : String)
  deriving DecidableEq, Repr

/-- A reader of expressions: the expression and the present instant give a window. -/
abbrev KeywordReader := String → Instant → Except TimeRangeError Window

namespace TimeRange

/-- The last hours, in seconds of 64 bits. -/
def lastHours (hours : UInt64) : TimeRange := .relative (hours * 3600)

/-- The last days, in seconds of 64 bits. -/
def lastDays (days : UInt64) : TimeRange := lastHours (days * 24)

/-- Where a relative range starts: never before the epoch, and at the epoch if it would leave the
calendar. -/
def relativeStart (seconds : UInt64) (now : Instant) : Instant :=
  if seconds = 0 then .epoch
  else ((now.addSeconds? (-(seconds.toNat : Int))).getD .epoch).latest .epoch

/-- The window of a time range at an instant. -/
def resolve (readKeyword : KeywordReader) (now : Instant) :
    TimeRange → Except TimeRangeError Window
  | .absolute start stop => Window.ofBounds start stop
  | .relative seconds => .ok ⟨relativeStart seconds now, now⟩
  | .keyword text => readKeyword text now

/-- The window as a time range. -/
def ofWindow (w : Window) : TimeRange := .absolute w.start w.stop

/-- The text of a time range. -/
def display : TimeRange → String
  | .absolute start stop => "absolute(" ++ start.display ++ " .. " ++ stop.display ++ ")"
  | .relative seconds => "relative(" ++ toString seconds.toNat ++ "s)"
  | .keyword text => "keyword(" ++ quoted text ++ ")"

/-- The time range as a record that names its kind. -/
def toJson : TimeRange → Json
  | .absolute start stop =>
    .obj [("from", .str start.render), ("to", .str stop.render), ("type", .str "absolute")]
  | .relative seconds => .obj [("range", .nat seconds.toNat), ("type", .str "relative")]
  | .keyword text => .obj [("keyword", .str text), ("type", .str "keyword")]

/-- The time range of a kind, from a way to find its fields. -/
def ofKind? (kind : String) (slots : List String → Option (List Slot)) : Option TimeRange :=
  if kind = "absolute" then do
    let [start, stop] ← slots ["from", "to"] | none
    return .absolute (← start.required Json.toInstant?) (← stop.required Json.toInstant?)
  else if kind = "relative" then do
    let [range] ← slots ["range"] | none
    let seconds ← range.required Json.toNat?
    return .relative (.ofNat seconds)
  else if kind = "keyword" then do
    let [expression] ← slots ["keyword"] | none
    return .keyword (← expression.required Json.toText?)
  else none

/-- A time range out of a record that names its kind, or out of an array with the kind first. -/
def ofJson? : Json → Option TimeRange
  | .arr (.str kind :: values) => ofKind? kind fun names => Json.positional names values
  | .obj fields =>
    match Json.single? "type" fields with
    | some (.given (.str kind)) => ofKind? kind fun names => Json.namedSlots names (.obj fields)
    | _ => none
  | _ => none

end TimeRange

end LogSearch
