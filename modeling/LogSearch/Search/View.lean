import LogSearch.Cluster.Error
import LogSearch.Json.Printer
import LogSearch.Json.Record

/-!
# Views of aggregation results

Aggregations come back as structured data. A view picks out what a search reads of one kind of
result; a result that is missing, or does not have the shape of its kind, is a malformed response.
Clusters leave out or null what has no value, and a sum of nothing is zero.
-/

namespace LogSearch

/-! ## Buckets -/

/-- One bucket of a grouping; `rest` holds the results computed in it. -/
structure Bucket where
  key : Json
  count : Nat
  rest : List (String × Json)
  deriving Repr

namespace Bucket

/-- A bucket out of structured data. -/
def ofJson? (json : Json) : Option Bucket := do
  let [key, count] ← json.namedSlots ["key", "doc_count"] | none
  let rest := (json.fields?.getD []).filter fun (name, _) => name != "key" && name != "doc_count"
  return { key := ← key.required some, count := ← count.required Json.toNat?, rest }

/-- The key as text. -/
def keyText (bucket : Bucket) : String :=
  match bucket.key with
  | .str text => text
  | other => other.render

/-- The milliseconds that a key counts; a number with decimals is cut. -/
def keyMillis? (key : Json) : Option Int :=
  match key.toInt64? with
  | some n => some n
  | none => key.toBinary64?.map (Binary64.clampTo (-0x8000000000000000) 0x7FFFFFFFFFFFFFFF)

/-- The start of the bucket in seconds since the epoch. -/
def epochSeconds (bucket : Bucket) : Except BackendError Int :=
  match keyMillis? bucket.key with
  | some millis => .ok (millis / 1000)
  | none => .error (.malformed ("histogram key " ++ bucket.key.render ++ " is not a number"))

/-- The result computed in the bucket under a name. -/
def inner {α : Type} (read : Json → Option α) (name : String) (bucket : Bucket) :
    Except BackendError α :=
  match Keyed.get? name bucket.rest with
  | none => .error (.malformed ("bucket without sub-aggregation '" ++ name ++ "'"))
  | some json =>
    match read json with
    | some result => .ok result
    | none => .error (.malformed ("sub-aggregation '" ++ name ++ "': unexpected shape"))

end Bucket

/-- The result under a name among those of a response. -/
def aggregationResult {α : Type} (read : Json → Option α) (results : Option Json) (name : String) :
    Except BackendError α :=
  match results.bind fun json => json.get? name with
  | none => .error (.malformed ("missing aggregation '" ++ name ++ "'"))
  | some json =>
    match read json with
    | some result => .ok result
    | none => .error (.malformed ("aggregation '" ++ name ++ "': unexpected shape"))

/-! ## Kinds of results -/

/-- A grouping by value. -/
structure TermsView where
  otherCount : Nat
  buckets : List Bucket

/-- A grouping by time. -/
structure HistogramView where
  buckets : List Bucket

/-- The documents without a field. -/
structure MissingView where
  count : Nat

/-- Simple statistics. -/
structure StatsView where
  count : Nat
  least : Option Binary64
  greatest : Option Binary64
  mean : Option Binary64
  sum : Binary64
  deriving DecidableEq

/-- All statistics. -/
structure ExtendedStatsView where
  stats : StatsView
  sumOfSquares : Option Binary64
  variance : Option Binary64
  deviation : Option Binary64
  deriving DecidableEq

/-- A single value. -/
structure ValueView where
  value : Option Binary64

/-- A list of buckets. -/
def bucketsOfJson? : Json → Option (List Bucket) := Json.toList? Bucket.ofJson?

/-- A grouping by value out of structured data. -/
def TermsView.ofJson? (json : Json) : Option TermsView := do
  let [other, buckets] ← json.slots ["sum_other_doc_count", "buckets"] | none
  return ⟨← other.orElse 0 Json.toNat?, ← buckets.orElse [] bucketsOfJson?⟩

/-- A grouping by time out of structured data. -/
def HistogramView.ofJson? (json : Json) : Option HistogramView := do
  let [buckets] ← json.slots ["buckets"] | none
  return ⟨← buckets.orElse [] bucketsOfJson?⟩

/-- The documents without a field out of structured data. -/
def MissingView.ofJson? (json : Json) : Option MissingView := do
  let [count] ← json.slots ["doc_count"] | none
  return ⟨← count.required Json.toNat?⟩

namespace StatsView

/-- The statistics of nothing. -/
def empty : StatsView :=
  { count := 0, least := none, greatest := none, mean := none, sum := .zero false }

/-- The names of the fields, in their order. -/
def fieldNames : List String := ["count", "min", "max", "avg", "sum"]

/-- A sum that may be null. -/
def sumOfJson? (json : Json) : Option Binary64 :=
  (Slot.nullable Json.toBinary64? json).map fun sum => sum.getD (.zero false)

/-- Simple statistics from their fields. -/
def ofSlots? : List Slot → Option StatsView
  | [count, least, greatest, mean, sum] => do
    return {
      count := ← count.required Json.toNat?
      least := ← least.optional Json.toBinary64?
      greatest := ← greatest.optional Json.toBinary64?
      mean := ← mean.optional Json.toBinary64?
      sum := ← sum.orElse (.zero false) sumOfJson? }
  | _ => none

/-- Simple statistics out of structured data. -/
def ofJson? (json : Json) : Option StatsView := (json.slots fieldNames).bind ofSlots?

end StatsView

namespace ExtendedStatsView

/-- The statistics of nothing. -/
def empty : ExtendedStatsView :=
  { stats := .empty, sumOfSquares := none, variance := none, deviation := none }

/-- All statistics out of an object. -/
def ofJson? (json : Json) : Option ExtendedStatsView := do
  let stats ← (json.namedSlots StatsView.fieldNames).bind StatsView.ofSlots?
  let [squares, variance, deviation] ←
    json.namedSlots ["sum_of_squares", "variance", "std_deviation"] | none
  return {
    stats
    sumOfSquares := ← squares.optional Json.toBinary64?
    variance := ← variance.optional Json.toBinary64?
    deviation := ← deviation.optional Json.toBinary64? }

end ExtendedStatsView

/-- A single value out of structured data. -/
def ValueView.ofJson? (json : Json) : Option ValueView := do
  let [value] ← json.slots ["value"] | none
  return ⟨← value.optional Json.toBinary64?⟩

end LogSearch
