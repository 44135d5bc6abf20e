import LogSearch.Json.Printer
import LogSearch.Query.Grammar
import LogSearch.Store.Document

/-!
# Which documents match

Two languages select documents. A `Clause` is a query of the query language; `Clause.matches` gives
its meaning, which has no errors. A `Condition` is a clause of a request body, read from structured
data by `Condition.ofJson`; where the data is no clause the condition is a `fault`, and
`Condition.holds` fails when it comes to a fault. What an earlier part has decided is not looked
at, so a fault shows only on some documents, and on none if there are none.

Objects are walked in the ascending order of their keys.
-/

namespace LogSearch

/-! ## Values -/

mutual

/-- Whether a value matches a pattern of the query language. A text matches by its start when the
pattern ends in a star, and otherwise as a whole or by one of its words; a number matches an equal
one, a truth value its name, and a list if an item does. -/
def valueMatches (pattern : List Char) : Json → Bool
  | .arr items => anyMatches pattern items
  | .str text =>
    if pattern.getLast? = some '*' then
      (lowercase pattern.dropLast).isPrefixOf (lowercase text.toList)
    else
      sameLetters text.toList pattern || (words text.toList).any (sameLetters · pattern)
  | .num number =>
    match Binary64.read? pattern with
    | some expected => number.toBinary64.numEq expected
    | none => false
  | .bool flag => sameLetters pattern (if flag then "true" else "false").toList
  | .null => false
  | .obj _ => false

/-- Whether one of several values matches. -/
def anyMatches (pattern : List Char) : List Json → Bool
  | [] => false
  | item :: rest => valueMatches pattern item || anyMatches pattern rest

end

/-! ## Queries -/

/-- Whether a document satisfies a condition without parts. -/
def Term.matches (document : Document) : Term → Bool
  | .all => true
  | .present name => !(document.values name).isEmpty
  | .field name value => (document.values name).any (valueMatches value.toList)
  | .bare value => document.source.any fun (_, content) => valueMatches value.toList content

mutual

/-- Whether a document satisfies a query. -/
def Clause.matches (document : Document) : Clause → Bool
  | .or clauses => Clause.anyMatches document clauses
  | .and clauses => Clause.allMatch document clauses
  | .not clause => !Clause.matches document clause
  | .term t => t.matches document

/-- Whether a document satisfies one of several queries. -/
def Clause.anyMatches (document : Document) : List Clause → Bool
  | [] => false
  | clause :: rest => Clause.matches document clause || Clause.anyMatches document rest

/-- Whether a document satisfies all of several queries. -/
def Clause.allMatch (document : Document) : List Clause → Bool
  | [] => true
  | clause :: rest => Clause.matches document clause && Clause.allMatch document rest

end

/-! ## Range bounds -/

/-- On which side of a bound a value has to lie. -/
inductive Side where
  | atLeast | above | atMost | below
  deriving DecidableEq, Repr

namespace Side

/-- The side that an operator names. -/
def ofOperator? (operator : String) : Option Side :=
  List.lookup operator
    [("gte", .atLeast), ("from", .atLeast), ("gt", .above), ("lte", .atMost), ("to", .atMost),
     ("lt", .below)]

/-- Whether a value that compares so with the bound lies on the side. -/
def accepts : Side → Ordering → Bool
  | .atLeast, o => o != .lt
  | .above, o => o == .gt
  | .atMost, o => o != .gt
  | .below, o => o == .lt

end Side

/-- A bound on a field: on its first number, or on its first instant. -/
inductive Bound where
  | number (side : Side) (limit : Binary64)
  | time (side : Side) (limit : Instant)
  | fault (detail : String)
  deriving Repr

namespace Bound

/-- Entries of a range clause that say nothing about values. -/
def ignored : List String := ["format", "time_zone", "boost", "include_lower", "include_upper"]

/-- The bound that an entry of a range clause states; none for null and for ignored entries. -/
def ofEntry? (operator : String) (limit : Json) : Option Bound :=
  match Side.ofOperator? operator with
  | none =>
    if ignored.contains operator then none
    else some (.fault ("unsupported range operator '" ++ operator ++ "'"))
  | some side =>
    match limit with
    | .null => none
    | .num n => some (.number side n.toBinary64)
    | .str text =>
      match Instant.readStamp? text with
      | some t => some (.time side t)
      | none => some (.fault ("invalid range bound '" ++ text ++ "'"))
    | other => some (.fault ("invalid range bound " ++ other.render))

/-- Whether a document's field lies on the right side of a bound. -/
def holds (document : Document) (field : String) : Bound → Except BackendError Bool
  | .number side limit =>
    .ok <| match (document.numbers field).head?.bind fun x => x.compare? limit with
      | some o => side.accepts o
      | none => false
  | .time side limit =>
    .ok <| match document.time? field with
      | some t => side.accepts (t.cmp limit)
      | none => false
  | .fault detail => .error (.malformed detail)

/-- Whether all bounds hold; the first that does not ends the matter. -/
def allHold (document : Document) (field : String) : List Bound → Except BackendError Bool
  | [] => .ok true
  | bound :: rest =>
    match bound.holds document field with
    | .error e => .error e
    | .ok false => .ok false
    | .ok true => allHold document field rest

end Bound

/-! ## Conditions -/

/-- A clause of a request body. -/
inductive Condition where
  | always
  /-- All of `required` and none of `forbidden`; one of `optional` unless something is required. -/
  | bool (required forbidden optional : List Condition)
  | range (field : String) (bounds : List Bound)
  | present (field : String)
  | equals (field : String) (value : Json)
  | text (clause : Clause)
  | fault (detail : String)
  deriving Repr

namespace Condition

/-- A range clause from its content. -/
def ofRange : Json → Condition
  | .obj [(field, .obj bounds)] =>
    .range field (bounds.filterMap fun (operator, limit) => Bound.ofEntry? operator limit)
  | .obj [_] => .fault "range bounds must be an object"
  | other => .fault ("expected a single-key object, got " ++ other.render)

/-- A clause for an equal value from its content. -/
def ofTerm : Json → Condition
  | .obj [(field, expected)] => .equals field ((expected.get? "value").getD expected)
  | other => .fault ("expected a single-key object, got " ++ other.render)

/-- A clause for a present field from its content. -/
def ofPresent (content : Json) : Condition :=
  match (content.get? "field").bind Json.toText? with
  | some field => .present field
  | none => .fault "exists query without field"

/-- A clause for a query text from its content. -/
def ofText (content : Json) : Condition :=
  match (content.get? "query").bind Json.toText? with
  | none => .fault "query_string without query"
  | some query =>
    match Query.parse query with
    | .ok clause => .text clause
    | .error e => .fault e.message

mutual

/-- The clause that structured data states. -/
def ofJson : Json → Condition
  | .obj [(kind, content)] =>
    if kind = "match_all" then .always
    else if kind = "bool" then
      match content with
      | .obj fields =>
        .bool (under "must" fields ++ under "filter" fields) (under "must_not" fields)
          (under "should" fields)
      | _ => .bool [] [] []
    else if kind = "range" then ofRange content
    else if kind = "exists" then ofPresent content
    else if kind = "term" then ofTerm content
    else if kind = "query_string" then ofText content
    else .fault ("unsupported query type '" ++ kind ++ "'")
  | other => .fault ("expected a single-key object, got " ++ other.render)

/-- The clauses under a key: the items of a list, or one. -/
def under (key : String) : List (String × Json) → List Condition
  | [] => []
  | (k, content) :: rest =>
    if k = key then
      match content with
      | .arr items => ofItems items
      | clause => [ofJson clause]
    else under key rest

/-- The clauses of a list. -/
def ofItems : List Json → List Condition
  | [] => []
  | item :: rest => ofJson item :: ofItems rest

end

mutual

/-- Whether a document satisfies a condition. -/
def holds (document : Document) : Condition → Except BackendError Bool
  | .always => .ok true
  | .bool required forbidden optional =>
    match allHold document required with
    | .error e => .error e
    | .ok false => .ok false
    | .ok true =>
      match anyHolds document forbidden with
      | .error e => .error e
      | .ok true => .ok false
      | .ok false =>
        if optional.isEmpty || !required.isEmpty then .ok true else anyHolds document optional
  | .range field bounds => Bound.allHold document field bounds
  | .present field => .ok (!(document.values field).isEmpty)
  | .equals field value => .ok ((document.values field).any (·.same value))
  | .text clause => .ok (clause.matches document)
  | .fault detail => .error (.malformed detail)

/-- Whether all conditions hold; the first that does not ends the matter. -/
def allHold (document : Document) : List Condition → Except BackendError Bool
  | [] => .ok true
  | condition :: rest =>
    match holds document condition with
    | .error e => .error e
    | .ok false => .ok false
    | .ok true => allHold document rest

/-- Whether one of the conditions holds; the first that does ends the matter. -/
def anyHolds (document : Document) : List Condition → Except BackendError Bool
  | [] => .ok false
  | condition :: rest =>
    match holds document condition with
    | .error e => .error e
    | .ok true => .ok true
    | .ok false => anyHolds document rest

end

end Condition

end LogSearch
