import LogSearch.Time.Window

/-!
# What a search covers

A `SearchScope` is shared by all operations: a query, an optional filter, a time range, and the
choice of indices. The indices are those whose ranges may hold documents of the window, or a given
list, written with commas.
-/

namespace LogSearch

/-- Which indices a search goes over. -/
inductive IndexChoice where
  /-- Those whose ranges fit the time range. -/
  | resolve
  /-- Those named in a text, between commas. -/
  | pattern (names : String)
  deriving DecidableEq, Repr

/-- What a search covers. -/
structure SearchScope where
  query : String
  filter : Option String
  range : TimeRange
  indices : IndexChoice
  deriving DecidableEq, Repr

namespace IndexChoice

/-- The choice as a record that names its kind. -/
def toJson : IndexChoice → Json
  | .resolve => .obj [("type", .str "resolve")]
  | .pattern names => .obj [("type", .str "pattern"), ("value", .str names)]

/-- A choice from the name of its kind and its content. -/
def ofKind? (kind : String) (content : Slot) : Option IndexChoice :=
  if kind = "resolve" then
    match content with
    | .absent => some .resolve
    | .given .null => some .resolve
    | _ => none
  else if kind = "pattern" then (content.required Json.toText?).map .pattern
  else none

/-- A choice out of a record that names its kind. -/
def ofJson? (json : Json) : Option IndexChoice := do
  let [kind, content] ← json.slots ["type", "value"] | none
  ofKind? (← kind.required Json.toName?) content

end IndexChoice

namespace SearchScope

/-- Everything within a time range. -/
def ofRange (range : TimeRange) : SearchScope :=
  { query := "*", filter := none, range, indices := .resolve }

/-- The scope as a record. -/
def toJson (scope : SearchScope) : Json :=
  .obj
    [("query", .str scope.query), ("filter", Json.ofOption .str scope.filter),
     ("range", scope.range.toJson), ("indices", scope.indices.toJson)]

/-- A scope out of a record. -/
def ofJson? (json : Json) : Option SearchScope := do
  let [query, filter, range, indices] ←
    json.slots ["query", "filter", "range", "indices"] | none
  return {
    query := ← query.required Json.toText?
    filter := ← filter.optional Json.toText?
    range := ← range.required TimeRange.ofJson?
    indices := ← indices.orElse .resolve IndexChoice.ofJson? }

end SearchScope

end LogSearch
