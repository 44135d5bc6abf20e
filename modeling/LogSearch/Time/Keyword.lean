import LogSearch.Time.Window

/-!
# Time ranges in words

The grammar, in the order its forms are tried; words in any letter case:

```text
from 2015-01-01 to 2015-01-02
last 2 hours | last week
1 day ago | an hour ago | 30 minutes ago
today | yesterday
2015-01-01 12:00:00            from that instant until now
```

`Keyword.read?` recognises a form at the front of a text, `Keyword.window` gives its window, and
`readKeyword` does both and refuses anything left over.
-/

namespace LogSearch

/-- A unit of time. -/
inductive TimeUnit where
  | second | minute | hour | day | week | month | year
  deriving DecidableEq, Repr

/-- A recognised expression. -/
inductive Keyword where
  /-- From so many units before now until now. -/
  | back (amount : Nat) (unit : TimeUnit)
  /-- From midnight until now. -/
  | today
  /-- The day before. -/
  | yesterday
  /-- From an instant until now. -/
  | since (start : Instant)
  | between (start stop : Instant)
  deriving DecidableEq, Repr

/-! ## Meaning -/

/-- The seconds of a unit that has a fixed length. -/
def TimeUnit.seconds? : TimeUnit → Option Nat
  | .second => some 1
  | .minute => some 60
  | .hour => some 3600
  | .day => some 86400
  | .week => some 604800
  | .month => none
  | .year => none

/-- The instant so many units before another; months and years keep the day of the month where
they can. -/
def TimeUnit.before? (unit : TimeUnit) (amount : Nat) (now : Instant) : Option Instant :=
  match unit with
  | .month => now.addMonths? (-(amount : Int))
  | .year => now.addMonths? (-(amount * 12 : Int))
  | unit => now.addSeconds? (-(amount * unit.seconds?.getD 0 : Int))

/-- The window of an expression; `none` if it starts before the calendar. -/
def Keyword.window (now : Instant) : Keyword → Option (Except TimeRangeError Window)
  | .back amount unit => (unit.before? amount now).map fun start => Window.ofBounds start now
  | .today => some (Window.ofBounds now.midnight now)
  | .yesterday =>
    match now.midnight.addDays? (-1) with
    | none => some (.error .calendarEnd)
    | some start => some (Window.ofBounds start now.midnight)
  | .since start => some (Window.ofBounds start now)
  | .between start stop => some (Window.ofBounds start stop)

/-! ## Grammar -/

namespace Keyword

/-- What follows at least one gap. -/
def gap? : List Char → Option (List Char)
  | c :: rest => if isGap c then some (rest.dropWhile isGap) else none
  | [] => none

/-- The digits at the front, at least one. -/
def digits? (cs : List Char) : Option (List Char × List Char) :=
  let ds := cs.takeWhile Char.isDigit
  if ds.isEmpty then none else some (ds, cs.dropWhile Char.isDigit)

/-- The first word of a list that stands at the front, with its meaning. -/
def firstWord? {α : Type} (table : List (String × α)) (cs : List Char) : Option (α × List Char) :=
  table.findSome? fun (word, meaning) => (stripWord? word.toList cs).map fun rest => (meaning, rest)

/-- The words for units; a word stands before those it starts with. -/
def unitWords : List (String × TimeUnit) :=
  [("months", .month), ("month", .month),
   ("minutes", .minute), ("minute", .minute), ("mins", .minute), ("min", .minute),
   ("seconds", .second), ("second", .second), ("secs", .second), ("sec", .second),
   ("hours", .hour), ("hour", .hour), ("days", .day), ("day", .day),
   ("weeks", .week), ("week", .week), ("years", .year), ("year", .year),
   ("s", .second), ("m", .minute), ("h", .hour), ("d", .day), ("w", .week), ("y", .year)]

/-- A unit. -/
def unit? (cs : List Char) : Option (TimeUnit × List Char) := firstWord? unitWords cs

/-- An amount in digits, of 32 bits, or the article for one. -/
def amount? (cs : List Char) : Option (Nat × List Char) :=
  let written := do
    let (ds, rest) ← digits? cs
    let n := natOfDigits 0 ds
    if n < 0x100000000 then some (n, rest) else none
  written <|> firstWord? [("an", 1), ("a", 1)] cs

/-- The time of day after a date: hour and minute, and a second that may be missing, in digits. -/
def clock? (cs : List Char) : Option ((List Char × List Char × List Char) × List Char) := do
  let cs ← match cs with
    | 'T' :: rest => some rest
    | cs => gap? cs
  let (hour, cs) ← digits? cs
  let cs ← TimeText.char? ':' cs
  let (minute, cs) ← digits? cs
  match (TimeText.char? ':' cs).bind digits? with
  | some (second, rest) => return ((hour, minute, second), rest)
  | none => return ((hour, minute, []), cs)

/-- The number of a digit string that is not too long. -/
def within? (width : Nat) (ds : List Char) : Option Nat :=
  if ds.length ≤ width then some (natOfDigits 0 ds) else none

/-- A date, with a time of day that may be missing. -/
def instant? (cs : List Char) : Option (Instant × List Char) := do
  let (year, cs) ← digits? cs
  let cs ← TimeText.char? '-' cs
  let (month, cs) ← digits? cs
  let cs ← TimeText.char? '-' cs
  let (day, cs) ← digits? cs
  let ((hour, minute, second), rest) := (clock? cs).getD (([], [], []), cs)
  let written : TimeText.Fields :=
    { year := ← within? 4 year, month := ← within? 2 month, day := ← within? 2 day
      hour := ← within? 2 hour, minute := ← within? 2 minute, second := ← within? 2 second
      nano := 0 }
  return (← written.instant? 0, rest)

/-- `from … to …` -/
def between? (cs : List Char) : Option (Keyword × List Char) := do
  let cs ← stripWord? "from".toList cs
  let (start, cs) ← instant? (← gap? cs)
  let cs ← stripWord? "to".toList (← gap? cs)
  let (stop, cs) ← instant? (← gap? cs)
  return (.between start stop, cs)

/-- `last …`, of one unit if no amount is given. -/
def last? (cs : List Char) : Option (Keyword × List Char) := do
  let cs ← stripWord? "last".toList cs
  let cs ← gap? cs
  let counted := do
    let (amount, cs) ← amount? cs
    return (amount, ← gap? cs)
  let (amount, cs) := counted.getD (1, cs)
  let (unit, cs) ← unit? cs
  return (.back amount unit, cs)

/-- `… ago` -/
def ago? (cs : List Char) : Option (Keyword × List Char) := do
  let (amount, cs) ← amount? cs
  let (unit, cs) ← unit? (← gap? cs)
  let cs ← stripWord? "ago".toList (← gap? cs)
  return (.back amount unit, cs)

/-- The expression at the front of a text. -/
def read? (cs : List Char) : Option (Keyword × List Char) :=
  between? cs <|> last? cs <|> ago? cs
    <|> firstWord? [("today", .today), ("yesterday", .yesterday)] cs
    <|> (instant? cs).map fun (start, rest) => (.since start, rest)

end Keyword

/-- The window of an expression in words. -/
def readKeyword : KeywordReader := fun text now =>
  match Keyword.read? (trim text.toList) with
  | none => .error (.invalidKeyword text)
  | some (keyword, rest) =>
    if (trim rest).isEmpty then
      (keyword.window now).getD (.error (.invalidKeyword ("'" ++ text ++ "' is out of range")))
    else
      .error (.invalidKeyword
        ("unexpected input after keyword: '" ++ String.ofList (trim rest) ++ "'"))

end LogSearch
