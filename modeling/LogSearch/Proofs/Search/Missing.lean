import Mathlib
import LogSearch.Proofs.Query.RoundTrip
import LogSearch.Proofs.Search.Terms

/-!
# Documents without a field

A search for the most frequent values of a field says how many hits have no value. The query
language asks the same by `NOT _exists_:"field"`, for every name of a field that can be written in
quotes (`parse_present`, `parse_absent`). Both look at the values of the field, so an empty list and
a list of nulls count as no value in either, and an empty text as one.

A filter selects among what is found without it (`hits_selects`), and a filter and its negation
divide that (`length_hits_not_add`).

Main statement: what is missing is what the negated filter counts, and with what the filter itself
counts it makes up all hits (`missing_eq_count`).
-/

namespace LogSearch

/-! ## Texts -/

namespace Query

variable {field : String}

/-- The filter for documents with a value of a field. -/
def presentText (field : String) : String := "_exists_:\"" ++ field ++ "\""

/-- The filter for documents without a value of a field. -/
def absentText (field : String) : String := "NOT _exists_:\"" ++ field ++ "\""

theorem parse_present (h : '"' ∉ field.toList) :
    parse (presentText field) = .ok (.term (.present field)) := by
  have htext : (presentText field).toList = (Term.present field).text := by
    simp [presentText, Term.text, existsName, inQuotes]
  refine parse_written h ?_
  rw [htext]
  exact .term (.present field)

theorem parse_absent (h : '"' ∉ field.toList) :
    parse (absentText field) = .ok (.not (.term (.present field))) := by
  have htext : (absentText field).toList = "NOT ".toList ++ (Term.present field).text := by
    simp [absentText, Term.text, existsName, inQuotes]
  refine parse_written h ?_
  rw [htext]
  exact .not (.term (.present field))

end Query

/-! ## Hits -/

/-- What a negated existence asks for is what counts as missing. -/
theorem Clause.matches_absent (field : String) (document : Document) :
    (Clause.not (.term (.present field))).matches document = (document.values field).isEmpty := by
  simp [Clause.matches, Term.matches]

namespace Store

variable (store : Store) (names : List String) (q f : Clause) (w : Window)

/-- **A filter selects among the hits without it.** -/
theorem hits_selects :
    store.hits names (q.selects f w)
      = (store.hits names (q.selects (.term .all) w)).filter fun document => f.matches document := by
  rw [hits, hits, List.filter_filter]
  refine List.filter_congr fun document _ => ?_
  have hall : (Clause.term .all).matches document = true := by simp [Clause.matches, Term.matches]
  rw [Clause.selects, Clause.selects, hall, Bool.and_true, Bool.and_comm]

/-- **A filter and its negation divide the hits.** -/
theorem length_hits_not_add :
    (store.hits names (q.selects (.not f) w)).length + (store.hits names (q.selects f w)).length
      = (store.hits names (q.selects (.term .all) w)).length := by
  have hsplit := (store.hits names (q.selects (.term .all) w)).length_eq_length_filter_add
    fun document => f.matches document
  have hnot : ∀ document, (Clause.not f).matches document = !f.matches document := fun _ => by
    rw [Clause.matches]
  rw [hits_selects, hits_selects store names q f]
  simp only [hnot]
  omega

theorem missingCount_hits (field : String) :
    Operation.missingCount field (store.hits names (q.selects (.term .all) w))
      = (store.hits names (q.selects (.not (.term (.present field))) w)).length := by
  rw [hits_selects store names q (.not (.term (.present field))), Operation.missingCount]
  simp only [Clause.matches_absent]

end Store

/-! ## Searches -/

namespace Searcher

/-- **What is missing is what the query language finds missing.** For a query over indices that are
named, the most frequent values of a field leave out as many hits as there are with the filter that
negates the existence of the field, and these and the hits with the filter for its existence are all
hits. The four searches have results if the ends of the range are in order, and fail alike if they
are not; but the most frequent values give nothing if there is no end to the sorting of their
buckets. Keys that agree are sorted. -/
theorem missing_eq_count (searcher : Searcher) (store : Store) (now : Instant)
    (query pattern field : String) (start stop : Instant) (size : Nat) (direction : Direction)
    (q : Clause) (hquery : Query.parse query = .ok q) (hfield : '"' ∉ field.toList) :
    let scope (filter : Option String) : SearchScope :=
      ⟨query, filter, .absolute start stop, .pattern pattern⟩
    let terms := (searcher.run store.backend now (scope none) (.terms field size direction)).result
    let count (filter : Option String) :=
      (searcher.run store.backend now (scope filter) .count).result
    let hits := store.hits (namesOfPattern pattern)
      (q.selects (.term .all) (⟨start, stop⟩ : Window).wholeMillis)
    let buckets := Operation.termBuckets field hits
    if start ≤ stop then
      ∃ all present absent, count none = .ok all
        ∧ count (some (Query.presentText field)) = .ok present
        ∧ count (some (Query.absentText field)) = .ok absent
        ∧ absent.result.count + present.result.count = all.result.count
        ∧ (match store.sorter.sort? (Operation.byCount direction) buckets with
          | none => terms = .error (.backend .unsorted)
          | some _ => ∃ values, terms = .ok values
            ∧ values.result.missing = absent.result.count)
        ∧ (TermBucket.Agree buckets →
          ∃ sorted, store.sorter.sort? (Operation.byCount direction) buckets = some sorted)
    else
      terms = .error (.timeRange (.invalidBounds start stop))
        ∧ ∀ filter, count filter = .error (.timeRange (.invalidBounds start stop)) := by
  intro scope terms count hits buckets
  split
  · next hle =>
    have hall : Query.parse "*" = .ok (.term .all) := rfl
    have hw : ∀ filter, searcher.resolver.window now (scope filter).range = .ok ⟨start, stop⟩ :=
      fun _ => window_of_le searcher now rfl hle
    have hn : ∀ filter, searcher.indices (scope filter) ⟨start, stop⟩
        = .ok (namesOfPattern pattern) := fun _ => rfl
    have hplan : searcher.plan now (scope none) none = .ok ⟨⟨start, stop⟩, namesOfPattern pattern,
        searcher.body (scope none) ⟨start, stop⟩ none⟩ := by
      simp only [plan, hw, hn]
    refine ⟨_, _, _, run_count (scope none) (hw _) (hn _) hquery hall,
      run_count (scope (some (Query.presentText field))) (hw _) (hn _) hquery
        (Query.parse_present hfield),
      run_count (scope (some (Query.absentText field))) (hw _) (hn _) hquery
        (Query.parse_absent hfield), ?_, ?_,
      Operation.exists_sort?_of_agree store.sorter direction⟩
    · exact store.length_hits_not_add _ q _ _
    · refine run_terms_cases store hplan hquery hall field size direction ?_
      intro _ values _ _ hresult
      rw [hresult]
      exact store.missingCount_hits _ q _ field
  · next hle =>
    exact ⟨run_of_no_window (scope none) (window_of_not_le searcher now rfl hle) _ _,
      fun filter => run_of_no_window (scope filter) (window_of_not_le searcher now rfl hle) _ _⟩

/-- Of six documents four have no value: it is absent, null, or a list of none; a name with a point
is a path. -/
theorem missing_eq_count_path :
    let document (n : Json) : Document := ⟨.epoch, [("a", .obj [("n", n)])]⟩
    let store : Store := ⟨[("a_0", [⟨.epoch, []⟩, document .null, document (.arr [.null]),
      document (.arr []), document (.str ""), document (.int 1)])], [], .insertion 20⟩
    let searcher : Searcher :=
      ⟨⟨(⟨[]⟩ : RangeTable).lookup, lookupStream [], fun _ _ => .error .calendarEnd⟩, true⟩
    let scope (filter : Option String) : SearchScope :=
      ⟨"*", filter, .absolute .epoch .epoch, .pattern "a_0"⟩
    '"' ∉ "a.n".toList
      ∧ ∃ values absent,
        (searcher.run store.backend .epoch (scope none) (.terms "a.n" 1 .asc)).result = .ok values
        ∧ (searcher.run store.backend .epoch (scope (some "NOT _exists_:\"a.n\"")) .count).result
          = .ok absent
        ∧ values.result.missing = absent.result.count ∧ absent.result.count = 4 := by
  intro document store searcher scope
  have hquery : Query.parse "*" = .ok (.term .all) := rfl
  have hmissing := missing_eq_count searcher store .epoch "*" "a_0" "a.n" .epoch .epoch 1 .asc _
    hquery (by decide)
  simp only [if_pos (show Instant.epoch ≤ Instant.epoch by decide)] at hmissing
  obtain ⟨_, _, absent, _, _, habsent, _, hterms, hsorts⟩ := hmissing
  have hnames : namesOfPattern "a_0" = ["a_0"] := by cbv
  have hhits : store.hits ["a_0"] ((Clause.term .all).selects (.term .all)
      (⟨.epoch, .epoch⟩ : Window).wholeMillis) = store.documents "a_0" := by cbv
  have hagree : TermBucket.Agree (Operation.termBuckets "a.n" (store.documents "a_0")) := by
    unfold TermBucket.Agree
    decide +kernel
  rw [hnames, hhits] at hsorts
  obtain ⟨sorted, hsort⟩ := hsorts hagree
  rw [hnames, hhits, hsort] at hterms
  obtain ⟨values, hvalues, heq⟩ := hterms
  -- the filter finds the four
  let filtered := scope (some (Query.absentText "a.n"))
  have hw : searcher.resolver.window .epoch filtered.range = .ok ⟨.epoch, .epoch⟩ :=
    window_of_le searcher .epoch rfl (by decide)
  have hn : searcher.indices filtered ⟨.epoch, .epoch⟩ = .ok ["a_0"] := by cbv
  have hfour : (store.hits ["a_0"] ((Clause.term .all).selects (.not (.term (.present "a.n")))
      (⟨.epoch, .epoch⟩ : Window).wholeMillis)).length = 4 := by cbv
  have hcount : (searcher.run store.backend .epoch filtered .count).result = _ :=
    run_count filtered hw hn hquery (Query.parse_absent (by decide))
  rw [hfour] at hcount
  obtain rfl := Except.ok.inj (hcount.symm.trans habsent)
  exact ⟨by decide, values, _, hvalues, habsent, heq, rfl⟩

/-- Of five numbers and sixteen texts that lie between them none is missing, but the search for them
gives nothing. -/
theorem missing_eq_count_fails :
    let searcher : Searcher :=
      ⟨⟨(⟨[]⟩ : RangeTable).lookup, lookupStream [], fun _ _ => .error .calendarEnd⟩, true⟩
    let scope (filter : Option String) : SearchScope :=
      ⟨"*", filter, .absolute .epoch .epoch, .pattern "a_0"⟩
    '"' ∉ "n".toList
      ∧ (∃ absent, (searcher.run Store.crossed.backend .epoch
          (scope (some "NOT _exists_:\"n\"")) .count).result = .ok absent
        ∧ absent.result.count = 0)
      ∧ (searcher.run Store.crossed.backend .epoch (scope none) (.terms "n" 21 .desc)).result
        = .error (.backend .unsorted) := by
  intro searcher scope
  have hquery : Query.parse "*" = .ok (.term .all) := rfl
  let filtered := scope (some (Query.absentText "n"))
  have hw : searcher.resolver.window .epoch filtered.range = .ok ⟨.epoch, .epoch⟩ :=
    window_of_le searcher .epoch rfl (by decide)
  have hn : searcher.indices filtered ⟨.epoch, .epoch⟩ = .ok ["a_0"] := by cbv
  have hcount : (searcher.run Store.crossed.backend .epoch filtered .count).result = _ :=
    run_count filtered hw hn hquery (Query.parse_absent (by decide))
  refine ⟨by decide, ⟨_, hcount, ?_⟩, run_terms_crossed searcher 21⟩
  rw [Store.hits_crossed]
  decide +kernel

end Searcher

end LogSearch
