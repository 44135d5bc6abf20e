import LogSearch.Json.Basic
import LogSearch.Text.Blank
import LogSearch.Time.Interval
import LogSearch.Time.Window

/-!
# Request bodies

A search asks for no documents, only for their number and for aggregations. Its query is a `bool`
clause: the user's query must match, and the time window and an optional filter restrict it.
Everything here builds structured data with keys in ascending order, so that its text is canonical.
-/

namespace LogSearch

/-- The field that holds the time of a document. -/
def timestampField : String := "timestamp"

/-! ## Queries -/

namespace Query

/-- Whether a query selects everything: it is blank or a star. -/
def isMatchAll (query : String) : Bool :=
  let cs := trim query.toList
  cs.isEmpty || cs == ['*']

/-- The clause for a window, both ends included. -/
def rangeClause (w : Window) : Json :=
  .obj [("range", .obj [(timestampField,
    .obj [("gte", .str w.start.stamp), ("lte", .str w.stop.stamp)])])]

/-- The clause for a query text. -/
def textClause (query : String) (leadingWildcard : Bool) : Json :=
  .obj [("query_string",
    .obj [("allow_leading_wildcard", .bool leadingWildcard), ("query", .str query)])]

/-- The clause that the user's query makes. -/
def mustClause (query : String) (leadingWildcard : Bool) : Json :=
  if isMatchAll query then .obj [("match_all", .obj [])] else textClause query leadingWildcard

/-- The clause of a filter, unless it selects everything. -/
def filterClause? (leadingWildcard : Bool) (filter : String) : Option Json :=
  if isMatchAll filter then none else some (textClause filter leadingWildcard)

/-- The clause of a query within a window and a filter. -/
def filtered (query : String) (filter : Option String) (window : Option Window)
    (leadingWildcard : Bool) : Json :=
  .obj [("bool", .obj
    [("filter", .arr ((window.map rangeClause).toList
        ++ (filter.bind (filterClause? leadingWildcard)).toList)),
     ("must", mustClause query leadingWildcard)])]

/-- The body of a search. -/
def body (query : Json) (aggregations : Option (List (String × Json))) : Json :=
  .obj ((aggregations.map fun fields => ("aggregations", Json.obj fields)).toList
    ++ [("query", query), ("size", .nat 0), ("track_total_hits", .bool true)])

end Query

/-! ## Orders -/

/-- Ascending or descending. -/
inductive Direction where
  | asc | desc
  deriving DecidableEq, Repr, Inhabited

namespace Direction

/-- The name of a direction. -/
def name : Direction → String
  | .asc => "asc"
  | .desc => "desc"

/-- The direction with a name. -/
def ofName? (name : String) : Option Direction := [Direction.asc, .desc].find? (·.name == name)

/-- Reads a direction, in short or in full, in any letter case. -/
def ofText? (text : String) : Option Direction :=
  List.lookup (lowerText text)
    [("asc", .asc), ("ascending", .asc), ("desc", .desc), ("descending", .desc)]

/-- What is said about a text that is no direction. -/
def unknownMessage (text : String) : String := "unknown sort direction '" ++ text ++ "'"

end Direction

/-- What the rows of a grouped statistic are ordered by. -/
inductive RowKey where
  | term | count | total | min | max | mean
  deriving DecidableEq, Repr

/-- The order of the rows of a grouped statistic; equal rows come in the order of their terms. -/
structure RowOrder where
  key : RowKey
  direction : Direction
  deriving DecidableEq, Repr

namespace RowOrder

/-- All orders, each key forwards and in reverse. -/
def all : List RowOrder :=
  [RowKey.term, .count, .total, .min, .max, .mean].flatMap fun key => [⟨key, .asc⟩, ⟨key, .desc⟩]

/-- The name of a key. -/
def keyName : RowKey → String
  | .term => "term"
  | .count => "count"
  | .total => "total"
  | .min => "min"
  | .max => "max"
  | .mean => "mean"

/-- The name of an order. -/
def name (order : RowOrder) : String :=
  (if order.direction = .desc then "reverse_" else "") ++ keyName order.key

/-- The order with a name. -/
def ofName? (name : String) : Option RowOrder := all.find? fun order => order.name == name

/-- Reads the name of an order in any letter case, with dashes for underscores. -/
def ofText? (text : String) : Option RowOrder :=
  ofName? (String.ofList ((lowercase text.toList).map fun c => if c = '-' then '_' else c))

/-- What is said about a text that is no order. -/
def unknownMessage (text : String) : String := "unknown terms stats order '" ++ text ++ "'"

/-- Where a bucket holds what a key stands for. -/
def target : RowKey → String
  | .term => "_key"
  | .count => "_count"
  | .total => "stats.sum"
  | .min => "stats.min"
  | .max => "stats.max"
  | .mean => "stats.avg"

/-- The order as a request writes it. -/
def toJson (order : RowOrder) : Json :=
  let primary := Json.obj [(target order.key, .str order.direction.name)]
  match order.key with
  | .term => .arr [primary]
  | _ => .arr [primary, .obj [("_key", .str "asc")]]

end RowOrder

/-! ## Aggregations -/

namespace Query

/-- An aggregation with nothing but a field. -/
def fieldAggregation (kind field : String) : Json := .obj [(kind, .obj [("field", .str field)])]

/-- The most frequent values of a field; equal ones in ascending order. -/
def termsAggregation (field : String) (size : Nat) (direction : Direction) : Json :=
  .obj [("terms", .obj
    [("field", .str field),
     ("order", .arr [.obj [("_count", .str direction.name)], .obj [("_key", .str "asc")]]),
     ("size", .nat size)])]

/-- Statistics of a field for each value of another. -/
def groupedStats (keyField valueField : String) (order : RowOrder) (size : Nat) : Json :=
  .obj
    [("aggregations", .obj [("stats", fieldAggregation "stats" valueField)]),
     ("terms", .obj
       [("field", .str keyField), ("order", order.toJson), ("size", .nat size)])]

/-- Buckets along the time of the documents; empty ones are left out. -/
def histogram (interval : Interval) (inner : Option (List (String × Json))) : Json :=
  .obj ((inner.map fun fields => ("aggregations", Json.obj fields)).toList
    ++ [("date_histogram", .obj
      [("calendar_interval", .str interval.unitText), ("field", .str timestampField),
       ("min_doc_count", .nat 1)])])

/-- What is computed in each bucket of a histogram of a field. -/
def bucketStats (field : String) (full : Bool) : List (String × Json) :=
  (if full then [("cardinality", fieldAggregation "cardinality" field)] else [])
    ++ [("stats", fieldAggregation "stats" field)]

end Query

end LogSearch
