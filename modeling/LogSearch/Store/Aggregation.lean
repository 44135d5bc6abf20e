import LogSearch.Store.Histogram
import LogSearch.Store.Moments
import LogSearch.Store.Terms

/-!
# Aggregations

An `Aggregation` is what a request asks to be computed from the matching documents, read from
structured data by `Aggregation.ofJson`. Where the data is no aggregation it is a `fault`, and
`Aggregation.run` fails when it comes to a fault: one inside a bucket shows only if there is a
bucket. Objects are walked in the ascending order of their keys.
-/

namespace LogSearch

/-- A computation that gives one result for all documents. -/
inductive Metric where
  | stats | extendedStats | sum | mean | least | greatest | valueCount | cardinality
  deriving DecidableEq, Repr

/-- What is computed from documents; `inner` is computed for each bucket. -/
inductive Aggregation where
  | terms (field : String) (size : Nat) (order : List TermsOrder)
      (inner : List (String × Aggregation))
  | histogram (field : String) (interval : Interval) (minCount : Nat)
      (inner : List (String × Aggregation))
  | missing (field : String) (inner : List (String × Aggregation))
  | metric (metric : Metric) (field : String)
  | fault (detail : String)

/-! ## Metrics -/

namespace Metric

/-- The metric with a name. -/
def ofName? (name : String) : Option Metric :=
  List.lookup name
    [("stats", .stats), ("extended_stats", .extendedStats), ("sum", .sum), ("avg", .mean),
     ("min", .least), ("max", .greatest), ("value_count", .valueCount),
     ("cardinality", .cardinality)]

/-- The moments of a field's numbers. -/
def moments (field : String) (documents : List Document) : Moments :=
  .of (documents.flatMap fun document => document.numbers field)

/-- The identities that occur among a field's values, each once. -/
def identities (field : String) (documents : List Document) : List String :=
  (distinctTerms [] ((documents.flatMap fun document => document.values field).filterMap
    termKey?)).map Prod.fst

/-- The result of a metric. -/
def run (metric : Metric) (field : String) (documents : List Document) : Json :=
  let value (json : Json) : Json := .obj [("value", json)]
  match metric with
  | .stats => (moments field documents).stats
  | .extendedStats => (moments field documents).extendedStats
  | .sum => value (.float (moments field documents).sum)
  | .mean => value (Moments.numberOrNull (moments field documents).mean)
  | .least => value (Moments.numberOrNull (moments field documents).least)
  | .greatest => value (Moments.numberOrNull (moments field documents).greatest)
  | .valueCount =>
    value (.nat (documents.foldl (fun n document => n + (document.values field).length) 0))
  | .cardinality => value (.nat (identities field documents).length)

end Metric

/-! ## Reading -/

namespace Aggregation

/-- Keys of an aggregation that do not name its kind. -/
def otherKeys : List String := ["aggregations", "aggs", "meta"]

/-- Grouping by value, from its parameters. -/
def ofTerms (field : String) (parameters : Json) (inner : List (String × Aggregation)) :
    Aggregation :=
  match TermsOrder.ofJson? (parameters.get? "order") with
  | .error detail => .fault detail
  | .ok order => .terms field (((parameters.get? "size").bind Json.toNat?).getD 10) order inner

/-- The name of the interval among the parameters. -/
def intervalText? (parameters : Json) : Option String :=
  (match parameters.get? "calendar_interval" with
    | some value => some value
    | none => parameters.get? "interval").bind Json.toText?

/-- Grouping by time, from its parameters. -/
def ofHistogram (field : String) (parameters : Json) (inner : List (String × Aggregation)) :
    Aggregation :=
  match intervalText? parameters with
  | none => .fault "date_histogram without calendar_interval"
  | some text =>
    match Interval.ofText? text with
    | none => .fault (Interval.unknownMessage text)
    | some interval =>
      .histogram field interval (((parameters.get? "min_doc_count").bind Json.toNat?).getD 0)
        inner

/-- The aggregation of a kind, from its parameters. -/
def ofKind (name kind : String) (parameters : Json) (inner : List (String × Aggregation)) :
    Aggregation :=
  match (parameters.get? "field").bind Json.toText? with
  | none => .fault (kind ++ " aggregation '" ++ name ++ "' without field")
  | some field =>
    if kind = "terms" then ofTerms field parameters inner
    else if kind = "date_histogram" then ofHistogram field parameters inner
    else if kind = "missing" then .missing field inner
    else match Metric.ofName? kind with
      | some m => .metric m field
      | none => .fault ("unsupported aggregation type '" ++ kind ++ "'")

mutual

/-- The aggregation that structured data asks for under a name. -/
def ofJson (name : String) : Json → Aggregation
  | .obj fields =>
    match fields.find? fun (key, _) => !otherKeys.contains key with
    | none => .fault ("aggregation '" ++ name ++ "' has no type")
    | some (kind, parameters) =>
      ofKind name kind parameters <|
        match inner? "aggregations" fields with
        | some inner => inner
        | none => (inner? "aggs" fields).getD []
  | _ => .fault ("aggregation '" ++ name ++ "' must be an object")

/-- The aggregations under a key. -/
def inner? (key : String) : List (String × Json) → Option (List (String × Aggregation))
  | [] => none
  | (k, content) :: rest => if k = key then some (ofAll content) else inner? key rest

/-- The aggregations that an object names. -/
def ofAll : Json → List (String × Aggregation)
  | .obj fields => ofFields fields
  | _ => [("", .fault "aggregations must be an object")]

/-- The aggregations of some fields. -/
def ofFields : List (String × Json) → List (String × Aggregation)
  | [] => []
  | (name, content) :: rest => (name, ofJson name content) :: ofFields rest

end

/-! ## Running -/

end Aggregation

/-- The buckets sorted by an order, or the error that there is no end to it. -/
def Sorter.sorted (sorter : Sorter) (orders : List TermsOrder) (buckets : List TermBucket) :
    Except BackendError (List TermBucket) :=
  match sorter.sort? orders buckets with
  | some sorted => .ok sorted
  | none => .error .unsorted

namespace Aggregation

/-- What is said of the buckets of a grouping by value: at most `size` of them, and the documents
of the others counted. -/
def termsResult (size : Nat) (buckets : List TermBucket) : Json :=
  .obj
    [("buckets", .arr ((buckets.take size).map fun bucket => .obj bucket.body)),
     ("doc_count_error_upper_bound", .nat 0),
     ("sum_other_doc_count", .nat ((buckets.drop size).foldl (fun n bucket => n + bucket.count) 0))]

mutual

/-- The result of an aggregation. -/
def run (sorter : Sorter) (documents : List Document) : Aggregation → Except BackendError Json
  | .terms field size order inner => do
    let buckets ← (TermGroup.ofDocuments field documents).mapM fun group => do
      let count := group.members.length
      let body ←
        runInto sorter [("doc_count", .nat count), ("key", group.key)] group.members inner
      return ({ identity := group.identity, key := group.key, count, body } : TermBucket)
    return termsResult size (← sorter.sorted order buckets)
  | .histogram field interval minCount inner => do
    let groups ← Histogram.groups field interval documents
    let groups := if minCount = 0 then Histogram.filled interval groups else groups
    let kept := groups.filter fun (_, members) => minCount ≤ members.length
    let buckets ← kept.mapM fun (start, members) => do
      let body ← runInto sorter
        [("doc_count", .nat members.length), ("key", .int start.epochMillis),
         ("key_as_string", .str start.renderMillis)] members inner
      return Json.obj body
    return .obj [("buckets", .arr buckets)]
  | .missing field inner => do
    let members := documents.filter fun document => (document.values field).isEmpty
    return .obj (← runInto sorter [("doc_count", .nat members.length)] members inner)
  | .metric m field => .ok (m.run field documents)
  | .fault detail => .error (.malformed detail)

/-- Puts the results of aggregations into the fields of a bucket. -/
def runInto (sorter : Sorter) (fields : List (String × Json)) (documents : List Document) :
    List (String × Aggregation) → Except BackendError (List (String × Json))
  | [] => .ok fields
  | (name, aggregation) :: rest => do
    let result ← run sorter documents aggregation
    runInto sorter (Keyed.insert name result fields) documents rest

end

end Aggregation

end LogSearch
