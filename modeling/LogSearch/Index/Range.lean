import LogSearch.Time.Window

/-!
# Index ranges

An `IndexRange` says which span of time the documents of one index cover. The index that is being
written to has no bounds yet: its span is `latest`. Where a bound is needed, as in ordering and in
records, `latest` counts as beginning and ending at the epoch.

An `IndexRecord` is the stored form. It has no kind of span; a record that begins and ends at the
epoch stands for `latest`.
-/

namespace LogSearch

/-- The time that the documents of an index cover. -/
inductive Span where
  | bounded (start stop : Instant) (ordered : start ≤ stop)
  /-- The index is still being written to. -/
  | latest
  deriving DecidableEq

/-- The span of an index, and how it was found. -/
structure IndexRange where
  name : String
  span : Span
  calculatedAt : Instant
  calculationMillis : Int
  streamIds : Option (List String)
  deriving DecidableEq

/-- Why index ranges are not available. -/
inductive IndexRangeError where
  /-- A record whose start is after its stop. -/
  | invalidSpan (name : String) (start stop : Instant)
  /-- The ranges could not be looked up. -/
  | lookup (detail : String)
  deriving DecidableEq, Repr

/-- The text of the error. -/
def IndexRangeError.message : IndexRangeError → String
  | .invalidSpan name start stop =>
    "Invalid range for index " ++ name ++ ": " ++ start.display ++ " is after " ++ stop.display
  | .lookup detail => "Index range lookup failed: " ++ detail

namespace IndexRange

/-- The range of an index between two instants in order. -/
def bounded (name : String) (start stop calculatedAt : Instant) (calculationMillis : Int) :
    Except IndexRangeError IndexRange :=
  if h : start ≤ stop then
    .ok { name, span := .bounded start stop h, calculatedAt, calculationMillis, streamIds := none }
  else .error (.invalidSpan name start stop)

/-- The range of the index that is being written to. -/
def latest (name : String) (calculatedAt : Instant) : IndexRange :=
  { name, span := .latest, calculatedAt, calculationMillis := 0, streamIds := none }

/-- The same range with known streams. -/
def withStreamIds (range : IndexRange) (ids : List String) : IndexRange :=
  { range with streamIds := some ids }

/-- Whether the index is still being written to. -/
def isLatest (range : IndexRange) : Bool :=
  match range.span with
  | .latest => true
  | .bounded .. => false

/-- Where the range starts. -/
def start (range : IndexRange) : Instant :=
  match range.span with
  | .bounded start _ _ => start
  | .latest => .epoch

/-- Where the range stops. -/
def stop (range : IndexRange) : Instant :=
  match range.span with
  | .bounded _ stop _ => stop
  | .latest => .epoch

/-- Whether the index may hold documents of a window: always while it is being written to, and
otherwise if the two have an instant in common. -/
def mayContain (range : IndexRange) (w : Window) : Bool :=
  match range.span with
  | .bounded start stop _ => start ≤ w.stop && w.start ≤ stop
  | .latest => true

end IndexRange

/-! ## Records -/

/-- The stored form of an index range. -/
structure IndexRecord where
  name : String
  start : Instant
  stop : Instant
  calculatedAt : Instant
  calculationMillis : Int
  streamIds : Option (List String)
  deriving DecidableEq

namespace IndexRecord

/-- The range that a record stores. -/
def toRange (record : IndexRecord) : Except IndexRangeError IndexRange :=
  if record.start = .epoch ∧ record.stop = .epoch then
    .ok { IndexRange.latest record.name record.calculatedAt with
      calculationMillis := record.calculationMillis, streamIds := record.streamIds }
  else
    (IndexRange.bounded record.name record.start record.stop record.calculatedAt
      record.calculationMillis).map fun range => { range with streamIds := record.streamIds }

/-- The record of a range. -/
def ofRange (range : IndexRange) : IndexRecord :=
  { name := range.name, start := range.start, stop := range.stop
    calculatedAt := range.calculatedAt, calculationMillis := range.calculationMillis
    streamIds := range.streamIds }

/-- The names of a record's fields, in their order. -/
def fieldNames : List String :=
  ["index_name", "begin", "end", "calculated_at", "calculation_duration", "stream_ids"]

/-- What of a stored record counts. -/
def shape : Shape := .record (fieldNames.map fun name => (name, .whole))

/-- The record as structured data. -/
def toJson (record : IndexRecord) : Json :=
  .obj
    [("index_name", .str record.name), ("begin", .str record.start.render),
     ("end", .str record.stop.render), ("calculated_at", .str record.calculatedAt.render),
     ("calculation_duration", .int record.calculationMillis),
     ("stream_ids", Json.ofOption (fun ids => .arr (ids.map .str)) record.streamIds)]

/-- A record out of structured data. -/
def ofJson? (json : Json) : Option IndexRecord := do
  let [name, start, stop, calculatedAt, millis, ids] ← json.slots fieldNames | none
  return {
    name := ← name.required Json.toText?
    start := ← start.required Json.toInstant?
    stop := ← stop.required Json.toInstant?
    calculatedAt := ← calculatedAt.required Json.toInstant?
    calculationMillis := ← millis.orElse 0 Json.toInt32?
    streamIds := ← ids.orElse none (Slot.nullable (Json.toList? Json.toText?)) }

end IndexRecord

end LogSearch
