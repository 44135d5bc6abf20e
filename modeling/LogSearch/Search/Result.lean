import LogSearch.Json.Record
import LogSearch.Time.Interval
import LogSearch.Time.Window

/-!
# Results of searches

Every result says how long the backend took and what request was built for it. The structured form
of a result lists its fields in the order in which they are declared here.
-/

namespace LogSearch

/-- A result with what all results have. -/
structure Reported (α : Type) where
  result : α
  tookMillis : Nat
  builtQuery : String
  deriving Repr

/-- The structured form of a result, from that of its own fields. -/
def Reported.toJson {α : Type} (fields : α → List (String × Json)) (r : Reported α) : Json :=
  .obj (fields r.result ++ [("took_ms", .nat r.tookMillis), ("built_query", .str r.builtQuery)])

/-- A number that may be missing, as structured data. -/
def optionalFloat (x : Option Binary64) : Json := Json.ofOption Json.float x

/-! ## Counts and terms -/

/-- How many documents match. -/
structure CountResult where
  count : Nat
  deriving DecidableEq, Repr

/-- The most frequent values of a field. -/
structure TermsResult where
  total : Nat
  missing : Nat
  /-- Documents in the buckets that were cut off. -/
  other : Nat
  terms : List (String × Nat)
  deriving DecidableEq, Repr

/-- Statistics of the documents with one value of a field. -/
structure StatsRow where
  term : String
  count : Nat
  least : Option Binary64
  greatest : Option Binary64
  total : Binary64
  documents : Nat
  mean : Option Binary64
  deriving DecidableEq, Repr

/-- Statistics grouped by value. -/
structure GroupedStatsResult where
  rows : List StatsRow
  deriving DecidableEq, Repr

/-- The fields of a count. -/
def CountResult.fields (r : CountResult) : List (String × Json) := [("count", .nat r.count)]

/-- The fields of a list of terms. -/
def TermsResult.fields (r : TermsResult) : List (String × Json) :=
  [("total", .nat r.total), ("missing", .nat r.missing), ("other", .nat r.other),
   ("terms", .obj (r.terms.map fun (term, count) => (term, .nat count)))]

/-- The structured form of a row. -/
def StatsRow.toJson (r : StatsRow) : Json :=
  .obj
    [("key_field", .str r.term), ("count", .nat r.count), ("min", optionalFloat r.least),
     ("max", optionalFloat r.greatest), ("total", .float r.total),
     ("total_count", .nat r.documents), ("mean", optionalFloat r.mean)]

/-- The fields of grouped statistics. -/
def GroupedStatsResult.fields (r : GroupedStatsResult) : List (String × Json) :=
  [("results", .arr (r.rows.map StatsRow.toJson))]

/-! ## Histograms -/

/-- Values by the start of their bucket, in seconds since the epoch. -/
structure HistogramResult (α : Type) where
  interval : Interval
  boundaries : Window
  buckets : List (Int × α)
  deriving DecidableEq, Repr

/-- Statistics of a field in one bucket; what is not asked for is missing. -/
structure BucketStats where
  documents : Nat
  total : Binary64
  mean : Option Binary64
  count : Option Nat
  least : Option Binary64
  greatest : Option Binary64
  cardinality : Option Nat
  deriving DecidableEq, Repr

/-- The fields of a histogram. -/
def HistogramResult.fields {α : Type} (value : α → Json) (r : HistogramResult α) :
    List (String × Json) :=
  [("interval", .str r.interval.name), ("boundaries", r.boundaries.toJson),
   ("results", .obj (r.buckets.map fun (start, x) => (toString start, value x)))]

/-- The structured form of the statistics of a bucket, without what is missing. -/
def BucketStats.toJson (s : BucketStats) : Json :=
  .obj ([("total_count", .nat s.documents), ("total", .float s.total),
      ("mean", optionalFloat s.mean)]
    ++ (s.count.map fun n => ("count", .nat n)).toList
    ++ (s.least.map fun x => ("min", .float x)).toList
    ++ (s.greatest.map fun x => ("max", .float x)).toList
    ++ (s.cardinality.map fun n => ("cardinality", .nat n)).toList)

/-! ## Statistics of a field -/

/-- Statistics of a field. -/
structure FieldStatsResult where
  /-- All matching documents, with or without the field. -/
  hits : Nat
  count : Nat
  least : Option Binary64
  greatest : Option Binary64
  mean : Option Binary64
  sum : Binary64
  sumOfSquares : Option Binary64
  variance : Option Binary64
  deviation : Option Binary64
  deriving DecidableEq, Repr

/-- The fields of the statistics of a field. -/
def FieldStatsResult.fields (r : FieldStatsResult) : List (String × Json) :=
  [("search_hit_count", .nat r.hits), ("count", .nat r.count), ("min", optionalFloat r.least),
   ("max", optionalFloat r.greatest), ("mean", optionalFloat r.mean), ("sum", .float r.sum),
   ("sum_of_squares", optionalFloat r.sumOfSquares), ("variance", optionalFloat r.variance),
   ("std_deviation", optionalFloat r.deviation)]

end LogSearch
