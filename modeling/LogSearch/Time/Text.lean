import LogSearch.Number.Decimal
import LogSearch.Text.Lowercase
import LogSearch.Text.Blank
import LogSearch.Time.Instant

/-!
# Instants as text

Four written forms:

* `Instant.stamp`, the form of documents and range bounds: a blank before the time, always three
  decimals, no zone;
* `Instant.render`, the form of records: `T`, as few decimals as needed in groups of three, `Z`;
* `Instant.renderMillis`, the same with always three decimals;
* `Instant.display`, the form of messages: blanks, and `UTC` at the end.

Years from 0 to 9999 have four digits, others a sign and at least four digits.

Two readers: `Instant.readStamp?` takes a stamp, leniently, or else the strict form of records with
any zone; `Instant.read?` takes the form of records leniently. Lenient is the same everywhere:
blanks may stand before a number and where a blank is written, leading zeros may be missing, a year
may have a sign and then any number of digits, the decimals may be missing, and those after the
ninth are dropped. Second 60 is the leap second at the end of its minute.
-/

namespace LogSearch

/-! ## Writing -/

/-- A number with zeros in front up to a width. -/
def padded (width n : Nat) : List Char :=
  let digits := decimalDigits n
  List.replicate (width - digits.length) '0' ++ digits

/-- The text of a year. -/
def yearText (year : Int) : List Char :=
  if 0 ≤ year ∧ year ≤ 9999 then padded 4 year.toNat
  else (if year < 0 then '-' else '+') :: padded 4 year.natAbs

namespace Instant

/-- The date of an instant. -/
def dateText (t : Instant) : List Char :=
  let d := t.date
  yearText d.year ++ '-' :: padded 2 d.month ++ '-' :: padded 2 d.day

/-- Hour, minute and second; the leap second is second 60. -/
def clockText (t : Instant) : List Char :=
  let s := t.second
  padded 2 (s / 3600) ++ ':' :: padded 2 (s / 60 % 60) ++ ':'
    :: padded 2 (s % 60 + t.nano / nanosPerSecond)

/-- The nanoseconds within the second. -/
def subSecond (t : Instant) : Nat := t.nano % nanosPerSecond

/-- The point and as few decimals as needed, in groups of three. -/
def fractionText (t : Instant) : List Char :=
  let n := t.subSecond
  if n = 0 then []
  else if n % 1000000 = 0 then '.' :: padded 3 (n / 1000000)
  else if n % 1000 = 0 then '.' :: padded 6 (n / 1000)
  else '.' :: padded 9 n

/-- The point and three decimals; smaller parts are cut off. -/
def millisText (t : Instant) : List Char := '.' :: padded 3 (t.subSecond / 1000000)

/-- The characters of the form of documents and range bounds. -/
def stampChars (t : Instant) : List Char :=
  t.dateText ++ ' ' :: t.clockText ++ t.millisText

/-- The form of documents and range bounds. -/
def stamp (t : Instant) : String := String.ofList t.stampChars

/-- The form of records. -/
def render (t : Instant) : String :=
  String.ofList (t.dateText ++ 'T' :: t.clockText ++ t.fractionText ++ ['Z'])

/-- The form of records with milliseconds. -/
def renderMillis (t : Instant) : String :=
  String.ofList (t.dateText ++ 'T' :: t.clockText ++ t.millisText ++ ['Z'])

/-- The form of messages. -/
def display (t : Instant) : String :=
  String.ofList (t.dateText ++ ' ' :: t.clockText ++ t.fractionText ++ [' ', 'U', 'T', 'C'])

end Instant

/-! ## Reading numbers -/

namespace TimeText

/-- At least `least` and at most `most` digits at the front. -/
def digits? (least most : Nat) (cs : List Char) : Option (Nat × List Char) :=
  let ds := (cs.take most).takeWhile Char.isDigit
  if ds.length < least then none else some (natOfDigits 0 ds, cs.drop ds.length)

/-- A number of at most two digits, after blanks. -/
def short? (cs : List Char) : Option (Nat × List Char) := digits? 1 2 (trimFront cs)

/-- All digits at the front, at least one. -/
def run? (cs : List Char) : Option (Nat × List Char) := digits? 1 cs.length cs

/-- A year, after blanks: up to four digits, or a sign and any number of digits. -/
def year? (cs : List Char) : Option (Int × List Char) :=
  match trimFront cs with
  | '-' :: rest => (run? rest).map fun (n, r) => (-(n : Int), r)
  | '+' :: rest => (run? rest).map fun (n, r) => ((n : Int), r)
  | rest => (digits? 1 4 rest).map fun (n, r) => ((n : Int), r)

/-- What follows a character at the front. -/
def char? (c : Char) : List Char → Option (List Char)
  | d :: rest => if d = c then some rest else none
  | [] => none

/-- The nanoseconds that decimals denote: at least one digit, and those after the ninth are
dropped. -/
def decimals? (cs : List Char) : Option (Nat × List Char) :=
  let ds := cs.takeWhile Char.isDigit
  if ds.isEmpty then none
  else
    let kept := ds.take 9
    some (natOfDigits 0 kept * Nat.pow 10 (9 - kept.length), cs.dropWhile Char.isDigit)

/-- A point and decimals, if there is a point. -/
def fraction? : List Char → Option (Nat × List Char)
  | '.' :: rest => decimals? rest
  | cs => some (0, cs)

/-! ## Reading dates and times -/

/-- A date and a time of day as they are written, before it is known whether they exist. -/
structure Fields where
  year : Int
  month : Nat
  day : Nat
  hour : Nat
  minute : Nat
  second : Nat
  nano : Nat

/-- The instant that is `offset` seconds before the written date and time. -/
def Fields.instant? (f : Fields) (offset : Int) : Option Instant :=
  let date : Date := ⟨f.year, f.month, f.day⟩
  if date.isValid && f.hour < 24 && f.minute < 60 && f.second ≤ 60 then
    let leap := if f.second = 60 then 1 else 0
    let second : Int := f.hour * 3600 + f.minute * 60 + (f.second - leap : Nat) - offset
    Instant.ofParts? (date.number + second / secondsPerDay) (second % secondsPerDay).toNat
      (f.nano + leap * nanosPerSecond)
  else none

/-- Year, month and day with dashes; `gap` says what may stand before a dash. -/
def date? (gap : List Char → List Char) (cs : List Char) :
    Option ((Int × Nat × Nat) × List Char) := do
  let (year, cs) ← year? cs
  let cs ← char? '-' (gap cs)
  let (month, cs) ← short? cs
  let cs ← char? '-' (gap cs)
  let (day, cs) ← short? cs
  return ((year, month, day), cs)

/-- Hour and minute with a colon; `gap` says what may stand before the colon. -/
def hourMinute? (gap : List Char → List Char) (cs : List Char) :
    Option ((Nat × Nat) × List Char) := do
  let (hour, cs) ← short? cs
  let cs ← char? ':' (gap cs)
  let (minute, cs) ← short? cs
  return ((hour, minute), cs)

/-- Hour, minute and second with colons; `gap` says what may stand before a colon. -/
def clock? (gap : List Char → List Char) (cs : List Char) :
    Option ((Nat × Nat × Nat) × List Char) := do
  let ((hour, minute), cs) ← hourMinute? gap cs
  let cs ← char? ':' (gap cs)
  let (second, cs) ← short? cs
  return ((hour, minute, second), cs)

/-! ## Zones -/

/-- The hours and minutes of a zone; `gap` takes what stands between them. -/
def zoneDigits? (gap : List Char → Option (List Char)) (cs : List Char) :
    Option (Nat × List Char) := do
  let (hours, cs) ← digits? 2 2 cs
  let cs ← gap cs
  let (minutes, cs) ← digits? 2 2 cs
  if minutes < 60 then return (hours * 3600 + minutes * 60, cs) else none

/-- A zone as seconds east: `Z` for none, or a sign with hours and minutes. -/
def zone? (gap : List Char → Option (List Char)) : List Char → Option (Int × List Char)
  | [] => none
  | c :: rest =>
    if c = 'Z' || c = 'z' then some (0, rest)
    else if c = '+' then (zoneDigits? gap rest).map fun (n, r) => ((n : Int), r)
    else if c = '-' || c = '\u2212' then
      (zoneDigits? gap rest).map fun (n, r) => (-(n : Int), r)
    else none

/-- A zone, which `UTC` in any letter case may stand for. -/
def looseZone? (cs : List Char) : Option (Int × List Char) :=
  match stripWord? ['u', 't', 'c'] cs with
  | some rest => some (0, rest)
  | none => zone? (fun cs => some (cs.dropWhile fun c => c == ':' || isBlank c)) cs

/-- What may stand between a date and a time of day in the form of records. -/
def separator? : List Char → Option (List Char)
  | c :: rest => if c = 'T' || c = 't' || c = ' ' then some rest else none
  | [] => none

end TimeText

open TimeText

namespace Instant

/-- Reads the form of records leniently. -/
def readChars? (cs : List Char) : Option Instant := do
  let ((year, month, day), cs) ← date? trimFront cs
  let cs ← separator? cs
  let ((hour, minute, second), cs) ← clock? trimFront cs
  let (nano, cs) ← fraction? cs
  let (offset, cs) ← looseZone? (trimFront cs)
  if (trimFront cs).isEmpty && offset.natAbs < secondsPerDay then
    Fields.instant? ⟨year, month, day, hour, minute, second, nano⟩ offset
  else none

/-- Reads the form of records leniently. -/
def read? (s : String) : Option Instant := readChars? s.toList

/-- Reads the form of records strictly. -/
def readStrict? (cs : List Char) : Option Instant := do
  let (year, cs) ← digits? 4 4 cs
  let cs ← char? '-' cs
  let (month, cs) ← digits? 2 2 cs
  let cs ← char? '-' cs
  let (day, cs) ← digits? 2 2 cs
  let cs ← separator? cs
  let (hour, cs) ← digits? 2 2 cs
  let cs ← char? ':' cs
  let (minute, cs) ← digits? 2 2 cs
  let cs ← char? ':' cs
  let (second, cs) ← digits? 2 2 cs
  let (nano, cs) ← fraction? cs
  let (offset, cs) ← zone? (char? ':') cs
  if cs.isEmpty && offset.natAbs < secondsPerDay then
    Fields.instant? ⟨year, month, day, hour, minute, second, nano⟩ offset
  else none

/-- Reads a stamp leniently. -/
def readLoose? (cs : List Char) : Option Instant := do
  let ((year, month, day), cs) ← date? id cs
  let ((hour, minute, second), cs) ← clock? id (trimFront cs)
  let (nano, cs) ← fraction? cs
  if cs.isEmpty then Fields.instant? ⟨year, month, day, hour, minute, second, nano⟩ 0 else none

/-- Reads a stamp, or else the form of records. -/
def readStampChars? (cs : List Char) : Option Instant :=
  match readLoose? cs with
  | some t => some t
  | none => readStrict? cs

/-- Reads a stamp, or else the form of records. -/
def readStamp? (s : String) : Option Instant := readStampChars? s.toList

end Instant

end LogSearch
