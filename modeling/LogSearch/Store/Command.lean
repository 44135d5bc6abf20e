import LogSearch.Stateful
import LogSearch.Store.Search

/-!
# A store in use

A store in use changes in place. `StoreM` is a computation on it that may fail; a failure ends the
computation and undoes nothing of what came before. An update of the aliases therefore looks at all
its actions first, and only then carries them out, one after the other.

A `StoreCommand` is what may be asked of a store. `Store.after` is the store after some commands,
whether they fail or not.
-/

namespace LogSearch

/-- A computation on a store. -/
abbrev StoreM := Stateful Store BackendError

namespace StoreM

/-- Creates an index, unless it exists. -/
def createIndex (index : String) : StoreM Unit := modify fun store => store.createIndex index

/-- Fails if the index of an action does not exist. -/
def check (action : AliasAction) : StoreM Unit := do
  unless (← get).hasIndex action.index do
    throw (.api 404 ("no such index [" ++ action.index ++ "]"))

/-- Carries out an action. -/
def apply (action : AliasAction) : StoreM Unit :=
  modify fun store => { store with aliases := Store.applyAction store.aliases action }

/-- Carries out actions on the aliases. -/
def updateAliases (actions : List AliasAction) : StoreM Unit := do
  actions.forM check
  actions.forM apply

/-- Moves an alias to a new index. -/
def cycleAlias (name new : String) (old : Option String) : StoreM Unit :=
  updateAliases (cycleActions name new old)

/-- Answers a search. -/
def search (names : List String) (body : Json) : StoreM SearchResponse := do
  match (← get).search names body with
  | .ok response => return response
  | .error e => throw e

end StoreM

/-- What may be asked of a store. -/
inductive StoreCommand where
  | createIndex (index : String)
  | updateAliases (actions : List AliasAction)
  | cycleAlias (name new : String) (old : Option String)
  | search (names : List String) (body : Json)

/-- Carries out a command. Only a search has something to tell. -/
def StoreCommand.run : StoreCommand → StoreM (Option SearchResponse)
  | .createIndex index => do
    StoreM.createIndex index
    return none
  | .updateAliases actions => do
    StoreM.updateAliases actions
    return none
  | .cycleAlias name new old => do
    StoreM.cycleAlias name new old
    return none
  | .search names body => return some (← StoreM.search names body)

/-- The store after some commands. -/
def Store.after (store : Store) (commands : List StoreCommand) : Store :=
  commands.foldl (fun store command => (command.run.perform store).2) store

end LogSearch
