import LogSearch.Cluster.Response
import LogSearch.Json.Printer
import LogSearch.Keyed
import LogSearch.Index.Resolution
import LogSearch.Query.Body
import LogSearch.Search.Metrics
import LogSearch.Search.Result
import LogSearch.Search.Scope
import LogSearch.Search.View

/-!
# Carrying out searches

An operation is the aggregations it asks for and a way to read the response. `Searcher.plan` turns
the time range into a window, whose width is measured, looks the indices up or takes them from the
scope, and builds the request. `Searcher.run` also sends it, once, and reads the response. If there
is no index to search, nothing is sent and the response counts as missing, from which every
operation makes the result of nothing.

An `Outcome` keeps, beside the result, what was done on the way: the window, the windows handed to
the lookup of index ranges, and the requests.
-/

namespace LogSearch

/-- Why a search has no result. -/
inductive SearchError where
  | timeRange (error : TimeRangeError)
  | indexRange (error : IndexRangeError)
  | stream (error : StreamError)
  | backend (error : BackendError)
  deriving DecidableEq, Repr

namespace SearchError

/-- The text of the error. -/
def message : SearchError → String
  | .timeRange e => "Invalid time range: " ++ e.message
  | .indexRange e => "Index range error: " ++ e.message
  | .stream e => "Stream error: " ++ e.message
  | .backend e => "Search backend error: " ++ e.message

/-- The error of a search whose indices are not known. -/
def ofResolve : ResolveError → SearchError
  | .timeRange e => .timeRange e
  | .indexRange e => .indexRange e
  | .stream e => .stream e

end SearchError

/-! ## Plans and outcomes -/

/-- Answers requests. -/
abbrev SearchBackend := SearchRequest → Except BackendError SearchResponse

/-- What searches are planned with. -/
structure Searcher where
  resolver : Resolver
  leadingWildcard : Bool

/-- What was done on the way to a result. -/
structure SearchTrace where
  /-- The window of the time range, if there is one. -/
  window : Option Window
  /-- The windows handed to the lookup of index ranges. -/
  lookups : List Window
  /-- The requests sent to the backend. -/
  requests : List SearchRequest
  deriving Repr

/-- A result, and what was done on the way. -/
structure Outcome (α : Type) where
  trace : SearchTrace
  result : Except SearchError α

/-- The metrics after a search of a window, if it got as far as that; without a clock it takes no
time. -/
def Metrics.afterSearch (metrics : Metrics) (window : Option Window) : Metrics :=
  let counted := metrics.recordRequest (.zero false)
  match window with
  | some w => counted.recordRange w.seconds
  | none => counted

/-- An operation: what it asks for, and what it makes of a window and a response. -/
structure Operation (α : Type) where
  aggregations : Option (List (String × Json))
  read : Window → Option SearchResponse → Except BackendError α

/-- A search whose indices are known. -/
structure SearchPlan where
  window : Window
  request : SearchRequest

/-- A search that cannot be planned, and its window if there is one. -/
structure PlanFailure where
  window : Option Window
  error : SearchError

namespace SearchPlan

/-- The result that an operation makes of a response. -/
def report {α : Type} (plan : SearchPlan) (operation : Operation α)
    (response : Option SearchResponse) : Except SearchError (Reported α) :=
  match operation.read plan.window response with
  | .error e => .error (.backend e)
  | .ok result =>
    .ok { result, tookMillis := (response.map SearchResponse.tookMillis).getD 0
          builtQuery := plan.request.body.render }

/-- The result that an operation makes of what a backend answers. -/
def finish {α : Type} (plan : SearchPlan) (operation : Operation α) :
    Except BackendError (Option SearchResponse) → Except SearchError (Reported α)
  | .error e => .error (.backend e)
  | .ok response => plan.report operation response

/-- Whether there is something to ask a backend. -/
def asks (plan : SearchPlan) : Bool := !plan.request.indices.isEmpty

/-- The requests sent for a plan, and the response; nothing is sent if there is no index. -/
def send (plan : SearchPlan) (backend : SearchBackend) :
    List SearchRequest × Except BackendError (Option SearchResponse) :=
  if plan.asks then ([plan.request], (backend plan.request).map some) else ([], .ok none)

end SearchPlan

/-! ## Planning -/

/-- The names between commas, without blanks around them and without empty ones. -/
def namesOfPattern (pattern : String) : List String :=
  (((splitAll ',' pattern.toList).map trim).filter fun name => !name.isEmpty).map String.ofList

/-- The windows handed to the lookup of index ranges for a scope. -/
def SearchScope.lookups (scope : SearchScope) (w : Window) : List Window :=
  match scope.indices with
  | .resolve => [w]
  | .pattern _ => []

namespace Searcher

/-- The indices of a scope within a window. -/
def indices (searcher : Searcher) (scope : SearchScope) (w : Window) :
    Except ResolveError (List String) :=
  match scope.indices with
  | .resolve => (searcher.resolver.rangesOf w scope.filter).map (·.map IndexRange.name)
  | .pattern names => .ok (namesOfPattern names)

/-- The body of a request for a scope within a window. -/
def body (searcher : Searcher) (scope : SearchScope) (w : Window)
    (aggregations : Option (List (String × Json))) : Json :=
  Query.body (Query.filtered scope.query scope.filter (some w) searcher.leadingWildcard)
    aggregations

/-- The plan of a search of a scope at an instant. -/
def plan (searcher : Searcher) (now : Instant) (scope : SearchScope)
    (aggregations : Option (List (String × Json))) : Except PlanFailure SearchPlan :=
  match searcher.resolver.window now scope.range with
  | .error e => .error ⟨none, .timeRange e⟩
  | .ok w =>
    match searcher.indices scope w with
    | .error e => .error ⟨some w, .ofResolve e⟩
    | .ok names => .ok ⟨w, names, searcher.body scope w aggregations⟩

/-- Carries out an operation on a scope at an instant. -/
def run {α : Type} (searcher : Searcher) (backend : SearchBackend) (now : Instant)
    (scope : SearchScope) (operation : Operation α) : Outcome (Reported α) :=
  match searcher.plan now scope operation.aggregations with
  | .error failure =>
    ⟨⟨failure.window, (failure.window.map scope.lookups).getD [], []⟩, .error failure.error⟩
  | .ok plan =>
    let (sent, response) := plan.send backend
    ⟨⟨some plan.window, scope.lookups plan.window, sent⟩, plan.finish operation response⟩

/-- The ranges of the indices that a time range touches. -/
def affectedRanges (searcher : Searcher) (now : Instant) (range : TimeRange)
    (filter : Option String) : Except SearchError (List IndexRange) :=
  (searcher.resolver.resolve now range filter).mapError .ofResolve

/-- The names of the indices that a time range touches. -/
def affectedIndices (searcher : Searcher) (now : Instant) (range : TimeRange)
    (filter : Option String) : Except SearchError (List String) :=
  (searcher.affectedRanges now range filter).map (·.map IndexRange.name)

end Searcher

/-! ## Operations -/

namespace Operation

/-- Counts the matching documents. -/
def count : Operation CountResult where
  aggregations := none
  read _ response := .ok ⟨(response.map fun r => r.total.count).getD 0⟩

/-- The terms that buckets give: of several with the same text the last counts. -/
def termCounts (buckets : List Bucket) : List (String × Nat) :=
  Keyed.ofList (buckets.map fun bucket => (bucket.keyText, bucket.count))

/-- The most frequent values of a field. -/
def terms (field : String) (size : Nat) (direction : Direction) : Operation TermsResult where
  aggregations := some
    [("missing", Query.fieldAggregation "missing" field),
     ("terms", Query.termsAggregation field size direction)]
  read _
    | none => .ok { total := 0, missing := 0, other := 0, terms := [] }
    | some response => do
      let terms ← aggregationResult TermsView.ofJson? response.aggregations "terms"
      let missing ← aggregationResult MissingView.ofJson? response.aggregations "missing"
      return {
        total := response.total.count
        missing := missing.count
        other := terms.otherCount
        terms := termCounts terms.buckets }

/-- The row of a bucket. -/
def rowOf (bucket : Bucket) : Except BackendError StatsRow := do
  let stats ← bucket.inner StatsView.ofJson? "stats"
  return {
    term := bucket.keyText
    count := stats.count
    least := stats.least
    greatest := stats.greatest
    total := stats.sum
    documents := bucket.count
    mean := stats.mean }

/-- Statistics of a field for each value of another. -/
def groupedStats (keyField valueField : String) (order : RowOrder) (size : Nat) :
    Operation GroupedStatsResult where
  aggregations := some [("terms", Query.groupedStats keyField valueField order size)]
  read _
    | none => .ok ⟨[]⟩
    | some response => do
      let terms ← aggregationResult TermsView.ofJson? response.aggregations "terms"
      return ⟨← terms.buckets.mapM rowOf⟩

/-- The buckets of a response, with what is read from each, by their start. -/
def bucketValues {α : Type} (value : Bucket → Except BackendError α) :
    Option SearchResponse → Except BackendError (List (Int × α))
  | none => .ok []
  | some response => do
    let histogram ← aggregationResult HistogramView.ofJson? response.aggregations "histogram"
    let pairs ← histogram.buckets.mapM fun bucket => do
      let x ← value bucket
      return (← bucket.epochSeconds, x)
    return Keyed.ofList pairs

/-- How many documents match in each interval. -/
def histogram (interval : Interval) : Operation (HistogramResult Nat) where
  aggregations := some [("histogram", Query.histogram interval none)]
  read w response := do
    return ⟨interval, w, ← bucketValues (fun bucket => .ok bucket.count) response⟩

/-- The number of different values in a bucket. -/
def cardinalityOf (bucket : Bucket) : Except BackendError Nat := do
  let view ← bucket.inner ValueView.ofJson? "cardinality"
  return ((view.value.getD (.zero false)).clampTo 0 0xFFFFFFFFFFFFFFFF).toNat

/-- The statistics of a bucket; `full` ones have all columns. -/
def bucketStats (full : Bool) (bucket : Bucket) : Except BackendError BucketStats := do
  let stats ← bucket.inner StatsView.ofJson? "stats"
  let cardinality ← if full then (cardinalityOf bucket).map some else pure none
  return {
    documents := bucket.count
    total := stats.sum
    mean := stats.mean
    count := if full then some stats.count else none
    least := if full then stats.least else none
    greatest := if full then stats.greatest else none
    cardinality }

/-- Statistics of a field in each interval. -/
def fieldHistogram (field : String) (interval : Interval) (full : Bool) :
    Operation (HistogramResult BucketStats) where
  aggregations := some
    [("histogram", Query.histogram interval (some (Query.bucketStats field full)))]
  read w response := do
    return ⟨interval, w, ← bucketValues (bucketStats full) response⟩

/-- The result that statistics give. -/
def fieldStatsResult (hits : Nat) (view : ExtendedStatsView) : FieldStatsResult :=
  { hits
    count := view.stats.count
    least := view.stats.least
    greatest := view.stats.greatest
    mean := view.stats.mean
    sum := view.stats.sum
    sumOfSquares := view.sumOfSquares
    variance := view.variance
    deviation := view.deviation }

/-- Statistics of a field. -/
def fieldStats (field : String) : Operation FieldStatsResult where
  aggregations := some [("field_stats", Query.fieldAggregation "extended_stats" field)]
  read _
    | none => .ok (fieldStatsResult 0 .empty)
    | some response => do
      let view ←
        aggregationResult ExtendedStatsView.ofJson? response.aggregations "field_stats"
      return fieldStatsResult response.total.count view

end Operation

end LogSearch
