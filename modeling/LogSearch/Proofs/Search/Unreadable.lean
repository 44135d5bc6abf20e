import LogSearch.Proofs.Search.Run

/-!
# Searches with texts that are no queries

The texts of a body are held against one document after the other, the query first, then the window,
then the filter, and a text that is no query is a fault that shows where a document comes to it
(`Condition.holds_filtered_unreadable`). Without such a document nobody notices.

Main statement: a search whose query or filter cannot be read is refused exactly if a document comes
to the fault (`Store.search_unreadable`). Every document comes to a query that cannot be read; to
such a filter only those come that the query matches within the window. If none does, the search is
answered like one that finds nothing, so what is stored decides (`Store.search_unreadable_passes`).
-/

namespace LogSearch

/-- Whether a document comes to the first text that is no query, if there is one. -/
def Query.reaches (query : String) (window : Option Window) (document : Document) : Bool :=
  match Query.parse query with
  | .error _ => true
  | .ok q => q.matches document && window.all fun w => w.wholeMillis.covers document.timestamp

namespace Condition

variable {query text : String} {e : QueryError}

/-! ## Faults of clauses -/

theorem isMatchAll_of_unreadable (h : Query.parse text = .error e) :
    Query.isMatchAll text = false := by
  cases hall : Query.isMatchAll text with
  | false => rfl
  | true =>
    rw [parse_of_isMatchAll hall] at h
    cases h

theorem ofJson_textClause_of_unreadable (h : Query.parse text = .error e)
    (leadingWildcard : Bool) :
    ofJson (Query.textClause text leadingWildcard) = .fault e.message := by
  have hkind : ofJson (Query.textClause text leadingWildcard)
      = ofText (.obj [("allow_leading_wildcard", .bool leadingWildcard), ("query", .str text)]) := by
    rw [Query.textClause, ofJson]
    rfl
  have hquery : (Json.obj [("allow_leading_wildcard", .bool leadingWildcard),
      ("query", .str text)]).get? "query" = some (.str text) := rfl
  rw [hkind, ofText, hquery, Option.bind_some, Json.toText?]
  simp only [h]

/-- A fault among the required conditions is met if all conditions before it hold. -/
theorem holds_bool_of_allHold {required : List Condition} {document : Document}
    {verdict : Except BackendError Bool} (h : allHold document required = verdict)
    (hverdict : verdict ≠ .ok true) :
    (Condition.bool required [] []).holds document = verdict := by
  rw [holds, h]
  rcases verdict with _ | _ | _
  · rfl
  · rfl
  · exact absurd rfl hverdict

/-! ## Bodies -/

/-- Every document comes to a query that cannot be read. -/
theorem holds_of_unreadable_query (h : Query.parse query = .error e) (filter : Option String)
    (window : Option Window) (leadingWildcard : Bool) (document : Document) :
    (ofJson (Query.filtered query filter window leadingWildcard)).holds document
      = .error (.malformed e.message) := by
  rw [ofJson_filtered, Query.mustClause, isMatchAll_of_unreadable h, if_neg (by decide),
    ofJson_textClause_of_unreadable h]
  exact holds_bool_of_allHold rfl (by simp)

/-- To a filter that cannot be read come the documents that the query matches within the window. -/
theorem holds_of_unreadable_filter {q : Clause} (hq : Query.parse query = .ok q)
    (h : Query.parse text = .error e) (window : Option Window) (leadingWildcard : Bool)
    (document : Document) :
    (ofJson (Query.filtered query (some text) window leadingWildcard)).holds document
      = if q.matches document && window.all fun w => w.wholeMillis.covers document.timestamp then
          .error (.malformed e.message)
        else .ok false := by
  have hfilter : (some text).bind (Query.filterClause? leadingWildcard)
      = some (Query.textClause text leadingWildcard) := by
    rw [Option.bind_some, Query.filterClause?, isMatchAll_of_unreadable h, if_neg (by decide)]
  have hfault : allHold document (ofItems [Query.textClause text leadingWildcard])
      = .error (.malformed e.message) := by
    rw [ofItems, ofItems, ofJson_textClause_of_unreadable h]
    rfl
  rw [ofJson_filtered, hfilter]
  refine holds_bool_of_allHold ?_ (by split <;> simp)
  rw [allHold_cons (holds_mustClause hq leadingWildcard document), allHold_window,
    Option.toList_some, hfault]
  cases q.matches document <;> rfl

/-- **A document that comes to an unreadable text is a fault, and no other one is selected.** -/
theorem holds_filtered_unreadable {filter : Option String}
    (h : (∃ e, Query.parse query = .error e) ∨ ∃ text ∈ filter, ∃ e, Query.parse text = .error e)
    (window : Option Window) (leadingWildcard : Bool) :
    ∃ detail, ∀ document,
      (ofJson (Query.filtered query filter window leadingWildcard)).holds document
        = if Query.reaches query window document then .error (.malformed detail)
          else .ok false := by
  unfold Query.reaches
  cases hq : Query.parse query with
  | error e => exact ⟨e.message, holds_of_unreadable_query hq filter window leadingWildcard⟩
  | ok q =>
    rcases h with ⟨e, he⟩ | ⟨text, rfl, e, he⟩
    · rw [hq] at he
      cases he
    · exact ⟨e.message, holds_of_unreadable_filter hq he window leadingWildcard⟩

end Condition

/-! ## Searches -/

namespace Store

variable {query : String} {filter : Option String}

/-- Where a condition is a fault or does not hold, only the fault can show. -/
theorem select_of_faults {condition : Condition} {e : BackendError} {p : Document → Bool}
    (h : ∀ document, condition.holds document = if p document then .error e else .ok false)
    (documents : List Document) :
    select condition documents = if documents.any p then .error e else .ok [] := by
  induction documents with
  | nil => rfl
  | cons document documents ih =>
    rw [select, h]
    cases hp : p document with
    | true => simp [hp]
    | false =>
      simp only [Bool.false_eq_true, if_false, ih, List.any_cons, hp, Bool.false_or]
      cases documents.any p <;> rfl

/-- **A search with a text that is no query is refused exactly if a document comes to the text.**
Otherwise it is answered like one that finds nothing. -/
theorem search_unreadable
    (h : (∃ e, Query.parse query = .error e) ∨ ∃ text ∈ filter, ∃ e, Query.parse text = .error e)
    (store : Store) (names : List String) (window : Option Window) (leadingWildcard : Bool)
    (aggregations : Option (List (String × Json))) :
    ((∃ document ∈ store.searched names, Query.reaches query window document) →
      ∃ detail, store.search names
        (Query.body (Query.filtered query filter window leadingWildcard) aggregations)
          = .error (.malformed detail))
    ∧ ((∀ document ∈ store.searched names, Query.reaches query window document = false) →
      store.search names
        (Query.body (Query.filtered query filter window leadingWildcard) aggregations)
          = answer store.sorter [] aggregations) := by
  obtain ⟨detail, hholds⟩ := Condition.holds_filtered_unreadable h window leadingWildcard
  have hselect := select_of_faults hholds (store.searched names)
  constructor
  · rintro ⟨document, hmem, hreaches⟩
    have hany : (store.searched names).any (Query.reaches query window) = true :=
      List.any_eq_true.mpr ⟨document, hmem, hreaches⟩
    refine ⟨detail, ?_⟩
    rw [search, conditionOf_body, hselect, hany]
    rfl
  · intro hnone
    have hany : (store.searched names).any (Query.reaches query window) = false := by
      simpa using hnone
    rw [hany, if_neg (by decide)] at hselect
    exact search_of_select hselect aggregations

/-- A filter that cannot be read is refused over a document of the window. -/
theorem search_unreadable_filter :
    let store : Store := ⟨[("a_0", [⟨.epoch, []⟩])], [], .insertion 20⟩
    let window : Window := ⟨.epoch, .epoch⟩
    (∃ e, Query.parse "(a" = .error e)
      ∧ (∀ document ∈ store.searched ["a_0"], Query.reaches "*" (some window) document = true)
      ∧ ∃ detail, store.search ["a_0"]
        (Query.body (Query.filtered "*" (some "(a") (some window) false) none)
          = .error (.malformed detail) := by
  intro store window
  have hfilter : ∃ e, Query.parse "(a" = .error e := ⟨_, rfl⟩
  have hunreadable : (∃ e, Query.parse "*" = .error e)
      ∨ ∃ text ∈ some "(a", ∃ e, Query.parse text = .error e := .inr ⟨"(a", rfl, hfilter⟩
  have hsearched : store.searched ["a_0"] = [⟨.epoch, []⟩] := by cbv
  have hreaches : ∀ document ∈ store.searched ["a_0"],
      Query.reaches "*" (some window) document = true := by
    intro document hmem
    rw [hsearched] at hmem
    obtain rfl := List.mem_singleton.mp hmem
    cbv
  obtain ⟨hrefused, -⟩ :=
    search_unreadable hunreadable store ["a_0"] (some window) false none
  have hmem : ⟨.epoch, []⟩ ∈ store.searched ["a_0"] := by
    rw [hsearched]
    exact List.mem_singleton_self _
  exact ⟨hfilter, hreaches, hrefused ⟨_, hmem, hreaches _ hmem⟩⟩

/-- A query that cannot be read passes over an empty index, and is refused once there is a
document. -/
theorem search_unreadable_passes :
    let body := Query.body (Query.filtered "AND" none (some ⟨.epoch, .epoch⟩) false) none
    let store : Store := ⟨[("a_0", [])], [], .insertion 20⟩
    let filled : Store := ⟨[("a_0", [⟨.epoch, []⟩])], [], .insertion 20⟩
    (∃ e, Query.parse "AND" = .error e)
      ∧ store.search ["a_0"] body = .ok (respond [] none)
      ∧ ∃ detail, filled.search ["a_0"] body = .error (.malformed detail) :=
  ⟨⟨_, rfl⟩, rfl, _, rfl⟩

end Store

end LogSearch
