import LogSearch.Json.Record
import LogSearch.Json.Syntax

/-!
# Reading structured data

What a written value stands for. `Json.parse?` takes all of a text: the value keeps the order of the
fields and keys that repeat. Refused are numbers too large for the floating-point format, halves of
surrogate pairs that stand alone, and more than 127 arrays and objects inside each other.

A reader that knows which fields it wants says so by a `Shape`. `Json.parseAs?` passes over the
other fields as they are written, so nothing in them is refused.
-/

namespace LogSearch

/-! ## Texts -/

namespace TextUnit

/-- What a unit of sixteen bits means after an optional first half of a pair: the character it
completes, or the half it opens. -/
def joinUnit (half : Option Nat) (unit : Nat) : Option (Char ⊕ Nat) :=
  match half with
  | none =>
    if unit < 0xD800 || 0xDFFF < unit then some (.inl (Char.ofNat unit))
    else if unit < 0xDC00 then some (.inr unit)
    else none
  | some high =>
    if 0xDC00 ≤ unit && unit ≤ 0xDFFF then
      some (.inl (Char.ofNat (0x10000 + (high - 0xD800) * 0x400 + (unit - 0xDC00))))
    else none

/-- The text of some units after an optional first half of a pair. `done` holds the characters
before them, last character first. -/
def decodeFrom (done : List Char) (half : Option Nat) : List TextUnit → Option (List Char)
  | [] => if half.isSome then none else some done.reverse
  | .char c :: rest => if half.isSome then none else decodeFrom (c :: done) none rest
  | .code unit :: rest =>
    match joinUnit half unit with
    | none => none
    | some (.inl c) => decodeFrom (c :: done) none rest
    | some (.inr high) => decodeFrom done (some high) rest

/-- The text of some units, whose halves of pairs must meet. -/
def decode? (units : List TextUnit) : Option String := (decodeFrom [] none units).map String.ofList

end TextUnit

/-! ## Numbers -/

namespace NumberSyntax

/-- A number that has to be rounded; it must not be too large. -/
def floating? (negative : Bool) (n : Nat) (e : Int) : Option JsonNumber :=
  let x := Binary64.ofDecimal negative n e
  if x.isFinite then some (.float x) else none

/-- A whole number that fits 64 bits is an integer, minus zero excepted. -/
def whole? (negative : Bool) (n : Nat) : Option JsonNumber :=
  if negative then
    if 0 < n ∧ n ≤ 0x8000000000000000 then some (.int (-n)) else floating? negative n 0
  else if n < 0x10000000000000000 then some (.int n) else floating? negative n 0

/-- The number that is written. -/
def value? (number : NumberSyntax) : Option JsonNumber :=
  let n := natOfDigits 0 (number.whole ++ number.fraction)
  if number.fraction.isEmpty && number.power.isNone then whole? number.negative n
  else floating? number.negative n (number.power.getD 0 - number.fraction.length)

end NumberSyntax

/-! ## Values -/

namespace JsonSyntax

mutual

/-- The value that is written; at most `depth` arrays and objects are inside each other. -/
def value? (depth : Nat) : JsonSyntax → Option Json
  | .null => some .null
  | .bool flag => some (.bool flag)
  | .number n => n.value?.map .num
  | .text units => (TextUnit.decode? units).map .str
  | .array items => match depth with
    | 0 => none
    | depth + 1 => (values? depth items).map .arr
  | .object fields => match depth with
    | 0 => none
    | depth + 1 => (fieldValues? depth fields).map .obj

/-- The values of the items of an array. -/
def values? (depth : Nat) : List JsonSyntax → Option (List Json)
  | [] => some []
  | item :: items => do
    let value ← value? depth item
    return value :: (← values? depth items)

/-- The fields of an object with their values. -/
def fieldValues? (depth : Nat) :
    List (List TextUnit × JsonSyntax) → Option (List (String × Json))
  | [] => some []
  | (units, content) :: rest => do
    let key ← TextUnit.decode? units
    let value ← value? depth content
    return (key, value) :: (← fieldValues? depth rest)

end

mutual

/-- The wanted parts of a written value. What does not have the shape is taken as a whole. -/
def pick? (shape : Shape) (depth : Nat) : JsonSyntax → Option Json
  | .array items => match shape, depth with
    | .items shape, depth + 1 => (pickItems? (fun _ => shape) 0 depth items).map .arr
    | .record fields, depth + 1 =>
      (pickItems? (fun i => ((fields[i]?).map Prod.snd).getD .whole) 0 depth items).map .arr
    | _, depth => value? depth (.array items)
  | .object content => match shape, depth with
    | .record fields, depth + 1 => (pickFields? fields depth content).map .obj
    | _, depth => value? depth (.object content)
  | other => value? depth other

/-- The wanted parts of the items of an array, by their places from some place on. -/
def pickItems? (shape : Nat → Shape) (place depth : Nat) :
    List JsonSyntax → Option (List Json)
  | [] => some []
  | item :: items => do
    let value ← pick? (shape place) depth item
    return value :: (← pickItems? shape (place + 1) depth items)

/-- The wanted fields of an object. -/
def pickFields? (fields : List (String × Shape)) (depth : Nat) :
    List (List TextUnit × JsonSyntax) → Option (List (String × Json))
  | [] => some []
  | (units, content) :: rest => do
    let key ← TextUnit.decode? units
    match List.lookup key fields with
    | none => pickFields? fields depth rest
    | some shape =>
      let value ← pick? shape depth content
      return (key, value) :: (← pickFields? fields depth rest)

end

end JsonSyntax

namespace Json

/-- How many arrays and objects may be inside each other. -/
def nestingLimit : Nat := 127

/-- The only value of a text, in its written order. -/
def parse? (text : String) : Option Json :=
  (JsonSyntax.parse? text).bind fun written => written.value? nestingLimit

/-- The wanted parts of the only value of a text. -/
def parseAs? (shape : Shape) (text : String) : Option Json :=
  (JsonSyntax.parse? text).bind fun written => written.pick? shape nestingLimit

end Json

end LogSearch
