import LogSearch.Cluster.Error
import LogSearch.Json.Record

/-!
# Requests for a search and responses

A request names indices and has a body. The answer to one is an envelope: how long it took, how many
documents match, and the results of the aggregations. Older clusters give the number of matches
bare, newer ones say whether it is exact.
-/

namespace LogSearch

/-- A request for a search. -/
structure SearchRequest where
  indices : List String
  body : Json
  deriving Repr

/-- Whether a number of matches is exact or a lower bound. -/
inductive HitRelation where
  | eq | gte
  deriving DecidableEq, Repr

/-- A number of matches. -/
inductive TotalHits where
  | bare (count : Nat)
  | related (count : Nat) (relation : HitRelation)
  deriving DecidableEq, Repr

/-- An answer to a search. -/
structure SearchResponse where
  tookMillis : Nat
  timedOut : Bool
  total : TotalHits
  aggregations : Option Json
  deriving Repr

/-! ## Hits -/

namespace HitRelation

/-- The name of a relation. -/
def name : HitRelation → String
  | .eq => "eq"
  | .gte => "gte"

/-- The relation that a value names. -/
def ofJson? (json : Json) : Option HitRelation :=
  json.toName?.bind fun name => [HitRelation.eq, .gte].find? (·.name == name)

end HitRelation

namespace TotalHits

/-- The number itself. -/
def count : TotalHits → Nat
  | .bare n => n
  | .related n _ => n

/-- A number of matches in either form. -/
def ofJson? (json : Json) : Option TotalHits :=
  match json.toNat? with
  | some n => some (.bare n)
  | none => do
    let [value, relation] ← json.namedSlots ["value", "relation"] | none
    return .related (← value.required Json.toNat?) (← relation.required HitRelation.ofJson?)

/-- The number of matches as structured data. -/
def toJson : TotalHits → Json
  | .bare n => .nat n
  | .related n relation => .obj [("value", .nat n), ("relation", .str relation.name)]

/-- The total out of the part of an answer that lists the matches. -/
def ofHits? (json : Json) : Option TotalHits := do
  let [total] ← json.slots ["total"] | none
  total.orElse (.bare 0) ofJson?

end TotalHits

/-! ## Responses -/

namespace SearchResponse

/-- The answer with nothing in it. -/
def empty : SearchResponse :=
  { tookMillis := 0, timedOut := false, total := .bare 0, aggregations := none }

/-- What of an answer counts. -/
def shape : Shape :=
  .record
    [("took", .whole), ("timed_out", .whole), ("hits", .record [("total", .whole)]),
     ("aggregations", .whole)]

/-- An answer out of structured data; everything in it may be missing. -/
def ofJson? (json : Json) : Option SearchResponse := do
  let [took, timedOut, hits, aggregations] ←
    json.slots ["took", "timed_out", "hits", "aggregations"] | none
  return {
    tookMillis := ← took.orElse 0 Json.toNat?
    timedOut := ← timedOut.orElse false Json.toBool?
    total := ← hits.orElse (.bare 0) TotalHits.ofHits?
    aggregations := ← aggregations.orElse none (Slot.nullable fun json => some json.canonical) }

/-- The answer as structured data. -/
def toJson (response : SearchResponse) : Json :=
  .obj ([("took", .nat response.tookMillis), ("timed_out", .bool response.timedOut),
      ("hits", .obj [("total", response.total.toJson)])]
    ++ (response.aggregations.map fun json => ("aggregations", json)).toList)

end SearchResponse

end LogSearch
