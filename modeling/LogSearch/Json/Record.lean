import LogSearch.Json.Basic

/-!
# Records in structured data

A record is written as an object with named fields, or as an array of its fields in their order.
In an object, fields of other names are passed over and a repeated field is refused; in an array
only trailing fields that have a default may be left out, and nothing may follow the last one.

`Json.slots` finds the fields of a record; a `Slot` then says what the type of its field makes of an
absent one. Reading a value of some type gives `none` when the value is not written as one. A
`Shape` names the fields in advance, so that a reader of text need not look at any others.
-/

namespace LogSearch

/-- Which parts of a value are wanted. -/
inductive Shape where
  /-- All of it. -/
  | whole
  /-- The same parts of each item of a list. -/
  | items (shape : Shape)
  /-- Of a record the fields with some names, in their order. -/
  | record (fields : List (String × Shape))
  deriving Repr

/-- What a record holds for one of its fields. -/
inductive Slot where
  /-- The object has no such field. -/
  | absent
  /-- The array ended before the field. -/
  | cut
  /-- The field's value. -/
  | given (value : Json)
  deriving Inhabited

namespace Slot

variable {α : Type}

/-- A field that must be there. -/
def required (read : Json → Option α) : Slot → Option α
  | .given value => read value
  | _ => none

/-- A field with a default, which also stands for one cut off. -/
def orElse (default : α) (read : Json → Option α) : Slot → Option α
  | .given value => read value
  | _ => some default

/-- A value that may be null. -/
def nullable (read : Json → Option α) : Json → Option (Option α)
  | .null => some none
  | value => (read value).map some

/-- A field that may be null or absent, but not cut off. -/
def optional (read : Json → Option α) : Slot → Option (Option α)
  | .absent => some none
  | .cut => none
  | .given value => nullable read value

end Slot

namespace Json

/-- The value of the field with a key; refused when there are several. -/
def single? (key : String) (fields : List (String × Json)) : Option Slot :=
  match fields.filter fun field => field.1 == key with
  | [] => some .absent
  | [(_, value)] => some (.given value)
  | _ => none

/-- The fields of a record written as an object. -/
def namedSlots (names : List String) : Json → Option (List Slot)
  | .obj fields => names.mapM fun name => single? name fields
  | _ => none

/-- The values of an array, matched with the fields of a record. -/
def positional : (names : List String) → List Json → Option (List Slot)
  | [], [] => some []
  | [], _ :: _ => none
  | _ :: names, [] => (positional names []).map (.cut :: ·)
  | _ :: names, value :: values => (positional names values).map (.given value :: ·)

/-- The fields of a record written in either form. -/
def slots (names : List String) : Json → Option (List Slot)
  | .arr items => positional names items
  | value => namedSlots names value

/-- The fields of a record written in either form, where an array may go on after the last one. -/
def leadingSlots (names : List String) : Json → Option (List Slot)
  | .arr items => positional names (items.take names.length)
  | value => namedSlots names value

/-! ## Simple values -/

/-- A truth value. -/
def toBool? : Json → Option Bool
  | .bool b => some b
  | _ => none

/-- A list of values. -/
def toList? {α : Type} (read : Json → Option α) : Json → Option (List α)
  | .arr items => items.mapM read
  | _ => none

/-- A signed integer of 32 bits. -/
def toInt32? : Json → Option Int
  | .num (.int n) => if -0x80000000 ≤ n ∧ n < 0x80000000 then some n else none
  | _ => none

/-- A name out of a fixed list: its text, or an object that holds nothing but null under it. -/
def toName? : Json → Option String
  | .str name => some name
  | .obj [(name, .null)] => some name
  | _ => none

end Json

end LogSearch
