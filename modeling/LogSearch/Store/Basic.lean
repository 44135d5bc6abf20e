import LogSearch.Cluster.Alias
import LogSearch.Keyed
import LogSearch.Store.Terms

/-!
# A store of documents

A `Store` holds documents by index, and aliases, each of one index. Indices only ever appear and
their documents never change; aliases change by lists of actions, which are carried out as a whole
or, when one names an index that does not exist, not at all. What a store sorts it sorts with a
`Sorter`, of which no more is known than what every sort promises.
-/

namespace LogSearch

/-- Documents by index, and the index of each alias. -/
structure Store where
  indices : List (String × List Document)
  aliases : List (String × String)
  /-- What the buckets of searches are sorted with. -/
  sorter : Sorter

namespace Store

/-- The store without indices. -/
def empty (sorter : Sorter) : Store := ⟨[], [], sorter⟩

/-! ## Indices -/

/-- Whether an index exists. -/
def hasIndex (store : Store) (index : String) : Bool := (Keyed.get? index store.indices).isSome

/-- The documents of an index; none if it does not exist. -/
def documents (store : Store) (index : String) : List Document :=
  (Keyed.get? index store.indices).getD []

/-- The store with an index; one that exists is left alone. -/
def createIndex (store : Store) (index : String) : Store :=
  { store with indices := Keyed.update index [] id store.indices }

/-- The store of one index with documents. -/
def ofDocuments (sorter : Sorter) (index : String) (sources : List Json) :
    Except BackendError Store :=
  (sources.mapM Document.ofSource).map fun documents => ⟨[(index, documents)], [], sorter⟩

/-! ## Aliases -/

/-- The index of an alias. -/
def aliasTarget (store : Store) (name : String) : Option String := Keyed.get? name store.aliases

/-- Carries out one action on the aliases. An alias is only taken off the index it is on. -/
def applyAction (aliases : List (String × String)) : AliasAction → List (String × String)
  | .add index name => Keyed.insert name index aliases
  | .remove index name =>
    if Keyed.get? name aliases = some index then Keyed.erase name aliases else aliases

/-- Carries out actions on the aliases, if the indices of all of them exist. -/
def updateAliases (store : Store) (actions : List AliasAction) : Except BackendError Store :=
  match actions.find? fun action => !store.hasIndex action.index with
  | some action => .error (.api 404 ("no such index [" ++ action.index ++ "]"))
  | none => .ok { store with aliases := actions.foldl applyAction store.aliases }

/-- Moves an alias to a new index. -/
def cycleAlias (store : Store) (name new : String) (old : Option String) :
    Except BackendError Store :=
  store.updateAliases (cycleActions name new old)

/-! ## Names -/

/-- The index that a name stands for: that of the alias, if it is one. -/
def resolveName (store : Store) (name : String) : String := (store.aliasTarget name).getD name

/-- The existing indices that names stand for, each once, in the order they first come. -/
def targets (store : Store) (names : List String) : List String :=
  names.foldl (fun found name =>
    let index := store.resolveName name
    if store.hasIndex index && !found.contains index then found ++ [index] else found) []

end Store

end LogSearch
