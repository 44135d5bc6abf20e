import LogSearch.Cluster.Response
import LogSearch.Store.Aggregation
import LogSearch.Store.Basic
import LogSearch.Store.Match

/-!
# Searching a store

A search goes over the documents of the indices that its names stand for, in the order of the
names. Names of indices that do not exist are passed over. The query of the body selects documents,
all of them if there is none, and the aggregations are computed from those selected.
-/

namespace LogSearch.Store

/-- The documents that a search goes over. -/
def searched (store : Store) (names : List String) : List Document :=
  (store.targets names).flatMap store.documents

/-- The documents that satisfy a condition, in order; the first fault ends the matter. -/
def select (condition : Condition) : List Document → Except BackendError (List Document)
  | [] => .ok []
  | document :: rest =>
    match condition.holds document with
    | .error e => .error e
    | .ok hit =>
      match select condition rest with
      | .error e => .error e
      | .ok hits => .ok (if hit then document :: hits else hits)

/-- The condition of a body. -/
def conditionOf (body : Json) : Condition :=
  match body.get? "query" with
  | some query => .ofJson query
  | none => .always

/-- The aggregations of a body, if it asks for any. -/
def aggregationsOf (body : Json) : Option (List (String × Aggregation)) :=
  (match body.get? "aggregations" with
    | some content => some content
    | none => body.get? "aggs").map Aggregation.ofAll

/-- The answer for the documents that match. -/
def respond (hits : List Document) (aggregations : Option Json) : SearchResponse :=
  { SearchResponse.empty with total := .related hits.length .eq, aggregations }

/-- Answers a search over the indices with some names. -/
def search (store : Store) (names : List String) (body : Json) :
    Except BackendError SearchResponse :=
  match select (conditionOf body) (store.searched names) with
  | .error e => .error e
  | .ok hits =>
    match aggregationsOf body with
    | none => .ok (respond hits none)
    | some aggregations =>
      match Aggregation.runInto store.sorter [] hits aggregations with
      | .error e => .error e
      | .ok results => .ok (respond hits (some (.obj results)))

end LogSearch.Store
