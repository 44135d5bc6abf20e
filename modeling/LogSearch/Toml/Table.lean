import LogSearch.Json.Basic

/-!
# Tables of a settings file

A settings file builds nested tables line by line. Which lines may add to a table depends on how it
came about: by its own header, as a parent in a header, or as a parent in a dotted key. A table has
one header at most, and dotted keys only add to tables that dotted keys have made. Values in braces
and brackets are closed; nothing is added to them.
-/

namespace LogSearch.Toml

/-- How a table came about. -/
inductive Origin where
  /-- It has a header, or is a whole file, a whole value in braces, or an item of a list. -/
  | header
  /-- It is a parent in a header. -/
  | parent
  /-- It is a parent in a dotted key. -/
  | dotted
  deriving DecidableEq, Repr

/-- What a table holds under a key. -/
inductive Node where
  | value (json : Json)
  | table (origin : Origin) (fields : List (String × Node))
  /-- The tables with one header in double brackets. -/
  | list (tables : List (List (String × Node)))
  deriving Inhabited

/-- What a table holds. -/
abbrev Fields := List (String × Node)

namespace Fields

/-- The node under a key. -/
def find? (key : String) (fields : Fields) : Option Node := Keyed.get? key fields

/-- The fields with another node under a key, or a new one at the end. -/
def set (key : String) (node : Node) : Fields → Fields
  | [] => [(key, node)]
  | (k, old) :: rest => if k = key then (k, node) :: rest else (k, old) :: set key node rest

/-- Changes the last of several tables. -/
def changeLast (change : Fields → Option Fields) : List Fields → Option (List Fields)
  | [] => none
  | [last] => (change last).map ([·])
  | table :: rest => (changeLast change rest).map (table :: ·)

/-- Puts a value under a dotted key. `isOpen` tells whether the table itself takes keys. -/
def put (json : Json) (isOpen : Bool) : (path : List String) → Fields → Option Fields
  | [], _ => none
  | [key], fields =>
    if isOpen && (fields.find? key).isNone then some (fields.set key (.value json)) else none
  | key :: path, fields =>
    match fields.find? key with
    | none => (put json true path []).map fun inner => fields.set key (.table .dotted inner)
    | some (.value _) => none
    | some (.table .header _) => none
    | some (.table origin inner) =>
      (put json (origin == .dotted) path inner).map fun inner =>
        fields.set key (.table origin inner)
    | some (.list tables) =>
      (changeLast (put json false path) tables).map fun tables => fields.set key (.list tables)

/-- Changes the table at a path of header keys; parents that are missing are made. -/
def change (act : Fields → Option Fields) : (path : List String) → Fields → Option Fields
  | [], fields => act fields
  | key :: path, fields =>
    match fields.find? key with
    | none => (change act path []).map fun inner => fields.set key (.table .parent inner)
    | some (.value _) => none
    | some (.table origin inner) =>
      (change act path inner).map fun inner => fields.set key (.table origin inner)
    | some (.list tables) =>
      (changeLast (change act path) tables).map fun tables => fields.set key (.list tables)

/-- Opens a table under a key: a new one, or one that is so far only a parent in headers. -/
def openTable (key : String) (fields : Fields) : Option Fields :=
  match fields.find? key with
  | none => some (fields.set key (.table .header []))
  | some (.table .parent inner) => some (fields.set key (.table .header inner))
  | _ => none

/-- Opens one more table of a list under a key. -/
def openItem (key : String) (fields : Fields) : Option Fields :=
  match fields.find? key with
  | none => some (fields.set key (.list [[]]))
  | some (.list tables) => some (fields.set key (.list (tables ++ [[]])))
  | _ => none

end Fields

mutual

/-- A node as structured data. -/
def Node.toJson : Node → Json
  | .value json => json
  | .table _ fields => .obj (fieldsToJson fields)
  | .list tables => .arr (tablesToJson tables)

/-- The fields of a table as structured data. -/
def fieldsToJson : List (String × Node) → List (String × Json)
  | [] => []
  | (key, node) :: rest => (key, node.toJson) :: fieldsToJson rest

/-- Tables as structured data. -/
def tablesToJson : List (List (String × Node)) → List Json
  | [] => []
  | fields :: rest => .obj (fieldsToJson fields) :: tablesToJson rest

end

end LogSearch.Toml
