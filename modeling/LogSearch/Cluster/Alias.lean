import LogSearch.Json.Record

/-!
# Aliases

An alias is a second name for an index. One request changes several aliases by a list of actions;
`cycleActions` is the list that moves an alias from an index to another.
-/

namespace LogSearch

/-- One change to the aliases. -/
inductive AliasAction where
  | add (index name : String)
  | remove (index name : String)
  deriving DecidableEq, Repr

namespace AliasAction

/-- The index that an action names. -/
def index : AliasAction → String
  | .add index _ => index
  | .remove index _ => index

/-- The alias that an action names. -/
def name : AliasAction → String
  | .add _ name => name
  | .remove _ name => name

/-- The action as structured data. -/
def toJson (action : AliasAction) : Json :=
  let content := Json.obj [("index", .str action.index), ("alias", .str action.name)]
  match action with
  | .add .. => .obj [("add", content)]
  | .remove .. => .obj [("remove", content)]

/-- An action out of structured data. -/
def ofJson? : Json → Option AliasAction
  | .obj [(kind, content)] => do
    let [index, name] ← content.namedSlots ["index", "alias"] | none
    let index ← index.required Json.toText?
    let name ← name.required Json.toText?
    if kind = "add" then return .add index name
    else if kind = "remove" then return .remove index name
    else none
  | _ => none

end AliasAction

/-- The actions that put an alias on a new index and take it off the old one, if there is one. -/
def cycleActions (name new : String) (old : Option String) : List AliasAction :=
  .add new name :: (old.map fun index => AliasAction.remove index name).toList

end LogSearch
