import LogSearch.Proofs.Time.Order
import LogSearch.Proofs.Time.Stamp
import LogSearch.Query.Body
import LogSearch.Store.Search

/-!
# What the body of a search selects

The query of a body is built from texts and read back by the store. Main statement: where the texts
are queries, the condition that comes out holds of exactly the documents that the query and the
filter match and whose time lies in the window (`holds_filtered`); it has no faults. So a search
selects a sublist of the documents it goes over (`select_eq_filter`).

An absent filter counts as the query that selects everything.
-/

namespace LogSearch

/-! ## Windows -/

namespace Window

/-- Whether an instant lies in the window. -/
def covers (w : Window) (t : Instant) : Bool := w.start ≤ t && t ≤ w.stop

theorem covers_iff {w : Window} {t : Instant} : w.covers t = true ↔ w.start ≤ t ∧ t ≤ w.stop := by
  rw [covers, Bool.and_eq_true, decide_eq_true_iff, decide_eq_true_iff]

/-- The window cut to whole milliseconds. -/
def wholeMillis (w : Window) : Window := ⟨w.start.wholeMillis, w.stop.wholeMillis⟩

/-- Both ends of the window are whole milliseconds. -/
def IsWhole (w : Window) : Prop := w.start.nano % 1000000 = 0 ∧ w.stop.nano % 1000000 = 0

theorem IsWhole.wholeMillis_eq {w : Window} (h : w.IsWhole) : w.wholeMillis = w := by
  rw [wholeMillis, Instant.wholeMillis_eq_self h.1, Instant.wholeMillis_eq_self h.2]

end Window

/-- Whether a document is one that a query and a filter match, within a window. -/
def Clause.selects (query filter : Clause) (w : Window) (document : Document) : Bool :=
  query.matches document && w.covers document.timestamp && filter.matches document

namespace Condition

variable {document : Document} {condition : Condition} {rest : List Condition}

/-! ## Conditions without faults -/

theorem allHold_cons {hit : Bool} (h : condition.holds document = .ok hit) :
    allHold document (condition :: rest) = if hit then allHold document rest else .ok false := by
  rw [allHold, h]
  cases hit <;> rfl

/-- Required conditions without faults are a conjunction. -/
theorem holds_required {required : List Condition} {hit : Bool} (hne : required ≠ [])
    (h : allHold document required = .ok hit) :
    (Condition.bool required [] []).holds document = .ok hit := by
  obtain ⟨condition, rest, rfl⟩ := List.exists_cons_of_ne_nil hne
  rw [holds, h]
  cases hit <;> rfl

/-! ## Clauses of a body -/

/-- A text that selects everything is a query that does. -/
theorem parse_of_isMatchAll {text : String} (h : Query.isMatchAll text = true) :
    Query.parse text = .ok (.term .all) := by
  rw [Query.isMatchAll, Bool.or_eq_true, List.isEmpty_iff, beq_iff_eq] at h
  rcases h with h | h <;> rw [Query.parse, h] <;> rfl

theorem ofJson_textClause {text : String} {c : Clause} (h : Query.parse text = .ok c)
    (leadingWildcard : Bool) : ofJson (Query.textClause text leadingWildcard) = .text c := by
  have hquery : (Json.obj [("allow_leading_wildcard", .bool leadingWildcard),
      ("query", .str text)]).get? "query" = some (.str text) := rfl
  have hkind : ofJson (Query.textClause text leadingWildcard)
      = ofText (.obj [("allow_leading_wildcard", .bool leadingWildcard), ("query", .str text)]) := by
    rw [Query.textClause, ofJson]
    rfl
  rw [hkind, ofText, hquery, Option.bind_some, Json.toText?]
  simp only [h]

theorem holds_mustClause {text : String} {c : Clause} (h : Query.parse text = .ok c)
    (leadingWildcard : Bool) (document : Document) :
    (ofJson (Query.mustClause text leadingWildcard)).holds document = .ok (c.matches document) := by
  rw [Query.mustClause]
  split
  · next hall =>
    rw [parse_of_isMatchAll hall] at h
    obtain rfl := Except.ok.inj h
    rfl
  · rw [ofJson_textClause h, holds]

/-- A bound that is a stamp. -/
theorem ofEntry?_stamp {operator : String} {side : Side} (h : Side.ofOperator? operator = some side)
    (t : Instant) : Bound.ofEntry? operator (.str t.stamp) = some (.time side t.wholeMillis) := by
  simp only [Bound.ofEntry?, h, t.readStamp?_stamp]

theorem ofJson_rangeClause (w : Window) : ofJson (Query.rangeClause w) = .range "timestamp"
    [.time .atLeast w.start.wholeMillis, .time .atMost w.stop.wholeMillis] := by
  have hkind : ofJson (Query.rangeClause w) = .range "timestamp"
      ([("gte", Json.str w.start.stamp), ("lte", .str w.stop.stamp)].filterMap
        fun entry => Bound.ofEntry? entry.1 entry.2) := by
    rw [Query.rangeClause, ofJson]
    rfl
  rw [hkind]
  simp only [List.filterMap_cons, List.filterMap_nil,
    ofEntry?_stamp (show Side.ofOperator? "gte" = some .atLeast from rfl),
    ofEntry?_stamp (show Side.ofOperator? "lte" = some .atMost from rfl)]

/-- The clause for a window holds of the documents whose time lies in it, up to a millisecond. -/
theorem holds_rangeClause (w : Window) (document : Document) :
    (ofJson (Query.rangeClause w)).holds document
      = .ok (w.wholeMillis.covers document.timestamp) := by
  have htime : document.time? "timestamp" = some document.timestamp := if_pos rfl
  -- both bounds are inclusive
  have hstart : Side.atLeast.accepts (document.timestamp.cmp w.start.wholeMillis)
      = decide (w.start.wholeMillis ≤ document.timestamp) := by
    rw [Bool.eq_iff_iff, decide_eq_true_iff, ← Instant.cmp_ne_lt_iff]
    exact bne_iff_ne
  have hstop : Side.atMost.accepts (document.timestamp.cmp w.stop.wholeMillis)
      = decide (document.timestamp ≤ w.stop.wholeMillis) := by
    rw [Bool.eq_iff_iff, decide_eq_true_iff, ← Instant.cmp_ne_gt_iff]
    exact bne_iff_ne
  rw [ofJson_rangeClause, holds, Window.covers, Window.wholeMillis]
  simp only [Bound.allHold, Bound.holds, htime, hstart, hstop]
  cases decide (w.start.wholeMillis ≤ document.timestamp) <;>
    cases decide (document.timestamp ≤ w.stop.wholeMillis) <;> rfl

/-- The clause for a window, if there is one, holds of the documents whose time lies in it. -/
theorem allHold_window (window : Option Window) (rest : List Json) (document : Document) :
    allHold document (ofItems ((window.map Query.rangeClause).toList ++ rest))
      = if window.all fun w => w.wholeMillis.covers document.timestamp then
          allHold document (ofItems rest)
        else .ok false := by
  cases window with
  | none => rfl
  | some w =>
    rw [Option.map_some, Option.toList_some, List.singleton_append, ofItems,
      allHold_cons (holds_rangeClause w document)]
    rfl

/-! ## Searches -/

theorem ofJson_filtered (query : String) (filter : Option String) (window : Option Window)
    (leadingWildcard : Bool) :
    ofJson (Query.filtered query filter window leadingWildcard)
      = .bool (ofJson (Query.mustClause query leadingWildcard)
          :: ofItems ((window.map Query.rangeClause).toList
            ++ (filter.bind (Query.filterClause? leadingWildcard)).toList)) [] [] := by
  -- a list in its place would be read as several clauses, but it is an object
  obtain ⟨fields, hmust⟩ : ∃ fields, Query.mustClause query leadingWildcard = .obj fields := by
    rw [Query.mustClause]
    split <;> exact ⟨_, rfl⟩
  rw [Query.filtered, hmust, ofJson]
  rfl

/-- The clause of a filter, unless there is none because everything is selected. -/
theorem allHold_filterClause {filter : Option String} {f : Clause}
    (h : Query.parse (filter.getD "*") = .ok f) (leadingWildcard : Bool) (document : Document) :
    allHold document (ofItems (filter.bind (Query.filterClause? leadingWildcard)).toList)
      = .ok (f.matches document) := by
  cases filter with
  | none =>
    obtain rfl : Clause.term .all = f := Except.ok.inj h
    rfl
  | some text =>
    rw [Option.getD_some] at h
    rw [Option.bind_some, Query.filterClause?]
    split
    · next hall =>
      obtain rfl := Except.ok.inj ((parse_of_isMatchAll hall).symm.trans h)
      rfl
    · rw [Option.toList_some, ofItems, ofItems, ofJson_textClause h, allHold_cons rfl]
      cases f.matches document <;> rfl

/-- A body whose texts are queries asks for the query, the window if there is one, and the
filter. -/
theorem holds_filtered_of_parse {query : String} {filter : Option String} {q f : Clause}
    (hq : Query.parse query = .ok q) (hf : Query.parse (filter.getD "*") = .ok f)
    (window : Option Window) (leadingWildcard : Bool) (document : Document) :
    (ofJson (Query.filtered query filter window leadingWildcard)).holds document
      = .ok (q.matches document && ((window.all fun w => w.wholeMillis.covers document.timestamp)
          && f.matches document)) := by
  rw [ofJson_filtered]
  refine holds_required (List.cons_ne_nil _ _) ?_
  rw [allHold_cons (holds_mustClause hq leadingWildcard document), allHold_window,
    allHold_filterClause hf]
  cases q.matches document with
  | false => rfl
  | true => cases window.all fun w => w.wholeMillis.covers document.timestamp <;> rfl

/-- **What a search asks of a document is a conjunction.** -/
theorem holds_filtered {query : String} {filter : Option String} {q f : Clause}
    (hq : Query.parse query = .ok q) (hf : Query.parse (filter.getD "*") = .ok f) (w : Window)
    (leadingWildcard : Bool) (document : Document) :
    (ofJson (Query.filtered query filter (some w) leadingWildcard)).holds document
      = .ok (q.selects f w.wholeMillis document) := by
  rw [holds_filtered_of_parse hq hf, Option.all_some, Clause.selects, Bool.and_assoc]

end Condition

namespace Store

/-- Where the condition has no faults, a sublist is selected. -/
theorem select_eq_filter {condition : Condition} {p : Document → Bool}
    (h : ∀ document, condition.holds document = .ok (p document)) (documents : List Document) :
    select condition documents = .ok (documents.filter p) := by
  induction documents with
  | nil => rfl
  | cons document documents ih =>
    rw [select, h, ih]
    cases hp : p document <;> simp [hp]

/-- What is selected was there. -/
theorem mem_of_mem_select {condition : Condition} {documents hits : List Document}
    (h : select condition documents = .ok hits) {document : Document} (hmem : document ∈ hits) :
    document ∈ documents := by
  induction documents generalizing hits with
  | nil =>
    cases h
    exact hmem
  | cons first rest ih =>
    rw [select] at h
    split at h
    · cases h
    · next hit hhit =>
      split at h
      · cases h
      · next found hfound =>
        obtain rfl := Except.ok.inj h
        have hcases : document = first ∨ document ∈ found := by
          cases hit <;> simp at hmem <;> tauto
        rcases hcases with rfl | hmem
        · exact List.mem_cons_self
        · exact List.mem_cons_of_mem _ (ih hfound hmem)

end Store

end LogSearch
