import LogSearch.Cluster.Error
import LogSearch.Json.Basic
import LogSearch.Text.Blank
import LogSearch.Time.Text

/-!
# Documents

A `Document` is an object with a time. A field is found under its name, or else along a path: the
parts of the name between points lead from object to object. A field that is absent or null has no
values; a list has one value for each of its items that is not null, and anything else is one value
by itself.
-/

namespace LogSearch

/-- An object with a time. -/
structure Document where
  timestamp : Instant
  source : List (String × Json)
  deriving Repr

namespace Document

/-- The value at the end of a path of names. -/
def descend : (path : List String) → Json → Option Json
  | [], value => some value
  | name :: path, value => (value.get? name).bind (descend path)

/-- The names between the points of a field's name. -/
def path (field : String) : List String := (splitAll '.' field.toList).map String.ofList

/-- What an object has under the name of a field, or at the end of its path. -/
def find? (source : List (String × Json)) (field : String) : Option Json :=
  match Keyed.get? field source with
  | some value => some value
  | none => descend (path field) (.obj source)

/-- The document that an object is; its timestamp must be a text with an instant. -/
def ofSource (source : Json) : Except BackendError Document :=
  match source with
  | .obj fields =>
    match ((Keyed.get? "timestamp" fields).bind Json.toText?).bind Instant.readStamp? with
    | some timestamp => .ok { timestamp, source := fields }
    | none => .error (.malformed "document without a valid timestamp")
  | _ => .error (.malformed "document must be a JSON object")

/-- The values of what a field holds. -/
def valuesOf : Option Json → List Json
  | none => []
  | some .null => []
  | some (.arr items) => items.filter fun item => !item.isNull
  | some value => [value]

/-- The values of a field. -/
def values (document : Document) (field : String) : List Json :=
  valuesOf (find? document.source field)

/-- The numbers among the values of a field. -/
def numbers (document : Document) (field : String) : List Binary64 :=
  (document.values field).filterMap Json.toBinary64?

/-- The first instant among the values of a field; the document's own for its timestamp. -/
def time? (document : Document) (field : String) : Option Instant :=
  if field = "timestamp" then some document.timestamp
  else (document.values field).findSome? fun value => value.toText?.bind Instant.readStamp?

end Document

end LogSearch
