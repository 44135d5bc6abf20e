import LogSearch.Keyed
import LogSearch.Number.Decimal

/-!
# Structured data

Documents, request bodies and responses are `Json` values. An object is its list of fields. In a
*canonical* value every object has its keys in ascending order and each key once; bodies are read,
walked and printed in that order. Text is read into a value that still has the written order and
repeated keys (`Json.Parser`), because a record with a repeated field is refused;
`Json.canonical` forgets both, the last of several equal keys winning.

A number is an integer of 64 bits or a binary floating-point number; the two are never equal.
-/

namespace LogSearch

/-- An integer that fits 64 bits, signed or unsigned, or a floating-point number. -/
inductive JsonNumber where
  | int (value : Int)
  | float (value : Binary64)
  deriving DecidableEq, Repr, Inhabited

namespace JsonNumber

/-- The number as floating point, rounded if needed. -/
def toBinary64 : JsonNumber → Binary64
  | .int n => .ofInt n
  | .float x => x

/-- The number as a signed integer of 64 bits. -/
def toInt64? : JsonNumber → Option Int
  | .int n => if -0x8000000000000000 ≤ n ∧ n < 0x8000000000000000 then some n else none
  | .float _ => none

/-- The number as an unsigned integer. -/
def toNat? : JsonNumber → Option Nat
  | .int n => if 0 ≤ n then some n.toNat else none
  | .float _ => none

/-- Numbers of different kinds are different; floating-point numbers are compared as numbers. -/
def same : JsonNumber → JsonNumber → Bool
  | .int a, .int b => a == b
  | .float x, .float y => x.numEq y
  | _, _ => false

/-- The text of a number in a document. -/
def render : JsonNumber → String
  | .int n => toString n
  | .float x => DecimalLayout.document.render x

end JsonNumber

/-- A structured value. -/
inductive Json where
  | null
  | bool (value : Bool)
  | num (value : JsonNumber)
  | str (value : String)
  | arr (items : List Json)
  | obj (fields : List (String × Json))
  deriving Repr, Inhabited

namespace Json

/-! ## Building -/

/-- An integer value. -/
def int (n : Int) : Json := .num (.int n)

/-- A natural number as a value. -/
def nat (n : Nat) : Json := .num (.int n)

/-- A floating-point value; what is not finite has no number and becomes null. -/
def float (x : Binary64) : Json := if x.isFinite then .num (.float x) else .null

/-- A value that may be missing. -/
def ofOption {α : Type} (render : α → Json) : Option α → Json
  | some x => render x
  | none => .null

/-! ## Canonical form -/

mutual

/-- The same value with every object in ascending key order and each key once. -/
def canonical : Json → Json
  | .arr items => .arr (canonicalItems items)
  | .obj fields => .obj (Keyed.ofList (canonicalFields fields))
  | value => value

/-- `canonical` on the items of an array. -/
def canonicalItems : List Json → List Json
  | [] => []
  | item :: rest => item.canonical :: canonicalItems rest

/-- `canonical` on the values of an object, whose fields stay as they stand. -/
def canonicalFields : List (String × Json) → List (String × Json)
  | [] => []
  | (key, value) :: rest => (key, value.canonical) :: canonicalFields rest

end

/-! ## Views -/

/-- The value under a key of an object. -/
def get? (key : String) : Json → Option Json
  | .obj fields => Keyed.get? key fields
  | _ => none

/-- The text of a text value. -/
def toText? : Json → Option String
  | .str s => some s
  | _ => none

/-- The number of a number value, as floating point. -/
def toBinary64? : Json → Option Binary64
  | .num n => some n.toBinary64
  | _ => none

/-- The integer of a number value, if it is signed and of 64 bits. -/
def toInt64? : Json → Option Int
  | .num n => n.toInt64?
  | _ => none

/-- The integer of a number value, if it is not negative. -/
def toNat? : Json → Option Nat
  | .num n => n.toNat?
  | _ => none

/-- The fields of an object. -/
def fields? : Json → Option (List (String × Json))
  | .obj fields => some fields
  | _ => none

/-- Whether the value is null. -/
def isNull : Json → Bool
  | .null => true
  | _ => false

/-! ## Equality -/

mutual

/-- Equality of canonical values. -/
def same : Json → Json → Bool
  | .null, .null => true
  | .bool a, .bool b => a == b
  | .num a, .num b => a.same b
  | .str a, .str b => a == b
  | .arr a, .arr b => sameItems a b
  | .obj a, .obj b => sameFields a b
  | _, _ => false

/-- Equality item by item. -/
def sameItems : List Json → List Json → Bool
  | [], [] => true
  | a :: as, b :: bs => same a b && sameItems as bs
  | _, _ => false

/-- Equality field by field. -/
def sameFields : List (String × Json) → List (String × Json) → Bool
  | [], [] => true
  | (k, a) :: as, (l, b) :: bs => k == l && same a b && sameFields as bs
  | _, _ => false

end

end Json

end LogSearch
