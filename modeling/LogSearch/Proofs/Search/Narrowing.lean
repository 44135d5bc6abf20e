import LogSearch.Proofs.Keyed
import LogSearch.Proofs.Search.Pruning

/-!
# Leaving out indices by the stream of a filter

A filter that names a stream by a marker lets a search leave out the indices outside the stream's
index set. The marker is found in the text of the filter, so it also counts where the filter does
not ask for the stream: then documents can be lost (`resolve_marked_loses`).

Main statement: nothing is added, nothing is lost exactly if no index that is left out holds a
selected document, and this is so where documents lie by their streams and the filter matches only
documents of the stream (`resolve_marked`). A filter does so in particular if its connectives make
the marker a condition (`Clause.Demands`).
-/

namespace LogSearch

/-! ## Documents of streams -/

/-- The field `streams` holds the id. -/
def Document.Carries (document : Document) (id : String) : Prop :=
  .str id ∈ document.values "streams"

/-- Documents of a stream lie only in the indices of its set. -/
def Store.Routed (store : Store) (streams : StreamLookup) : Prop :=
  ∀ index, ∀ document ∈ store.documents index, ∀ id stream, streams id = .ok stream →
    document.Carries id → stream.indexSet.manages index = true

theorem lookupStream_eq_ok {streams : List Stream} {id : String} {stream : Stream}
    (h : lookupStream streams id = .ok stream) : stream ∈ streams ∧ stream.id = id := by
  rw [lookupStream] at h
  split at h
  · next found hfound =>
    obtain rfl := Except.ok.inj h
    exact ⟨List.mem_reverse.mp (List.mem_of_find?_eq_some hfound),
      by simpa using List.find?_some hfound⟩
  · cases h

/-- Whether documents lie by their streams shows in what is stored. -/
theorem Store.routed_of_stored {store : Store} {streams : List Stream}
    (h : ∀ stored ∈ store.indices, ∀ document ∈ stored.2, ∀ stream ∈ streams,
      document.Carries stream.id → stream.indexSet.manages stored.1 = true) :
    store.Routed (lookupStream streams) := by
  intro index document hdocument id stream hstream hcarries
  obtain ⟨hmem, rfl⟩ := lookupStream_eq_ok hstream
  obtain ⟨documents, hstored, hdocument⟩ := exists_mem_of_mem_documents hdocument
  exact h _ hstored document hdocument stream hmem hcarries

/-! ## What a filter demands -/

namespace Clause

variable {document : Document} {clause : Clause} {clauses : List Clause} {id : String}

theorem anyMatches_iff :
    anyMatches document clauses = true ↔ ∃ clause ∈ clauses, clause.matches document = true := by
  induction clauses with
  | nil => simp [anyMatches]
  | cons clause clauses ih => simp [anyMatches, ih]

theorem allMatch_iff :
    allMatch document clauses = true ↔ ∀ clause ∈ clauses, clause.matches document = true := by
  induction clauses with
  | nil => simp [allMatch]
  | cons clause clauses ih => simp [allMatch, ih]

/-- `Demands id true clause`: a document that satisfies the clause satisfies the marker.
`Demands id false clause`: one that does not satisfy it does. -/
inductive Demands (id : String) : Bool → Clause → Prop where
  | marker : Demands id true (.term (.field "streams" id))
  | all : Demands id false (.term .all)
  | not {verdict : Bool} {clause : Clause} (h : Demands id (!verdict) clause) :
      Demands id verdict (.not clause)
  | and {clauses : List Clause} {clause : Clause} (hmem : clause ∈ clauses)
      (h : Demands id true clause) : Demands id true (.and clauses)
  | or {clauses : List Clause} (h : ∀ clause ∈ clauses, Demands id true clause) :
      Demands id true (.or clauses)
  | failedAnd {clauses : List Clause} (h : ∀ clause ∈ clauses, Demands id false clause) :
      Demands id false (.and clauses)
  | failedOr {clauses : List Clause} {clause : Clause} (hmem : clause ∈ clauses)
      (h : Demands id false clause) : Demands id false (.or clauses)

/-- **What a clause demands is satisfied where the clause has its verdict.** -/
theorem Demands.marker_matches {verdict : Bool} (h : Demands id verdict clause)
    (hverdict : clause.matches document = verdict) :
    (Term.field "streams" id).matches document = true := by
  induction h with
  | marker => exact hverdict
  | all => cases hverdict
  | not _ ih =>
    rw [Clause.matches] at hverdict
    exact ih (by rw [← hverdict, Bool.not_not])
  | and hmem _ ih =>
    rw [Clause.matches, allMatch_iff] at hverdict
    exact ih (hverdict _ hmem)
  | or _ ih =>
    rw [Clause.matches, anyMatches_iff] at hverdict
    obtain ⟨clause, hmem, hmatches⟩ := hverdict
    exact ih clause hmem hmatches
  | failedAnd _ ih =>
    rw [Clause.matches, Bool.eq_false_iff, ne_eq, allMatch_iff] at hverdict
    obtain ⟨clause, hclause⟩ := Classical.not_forall.mp hverdict
    obtain ⟨hmem, hmatches⟩ := Classical.not_imp.mp hclause
    exact ih clause hmem (Bool.eq_false_iff.mpr hmatches)
  | failedOr hmem _ ih =>
    rw [Clause.matches, Bool.eq_false_iff, ne_eq, anyMatches_iff] at hverdict
    exact ih (Bool.eq_false_iff.mpr fun hmatches => hverdict ⟨_, hmem, hmatches⟩)

end Clause

variable {store : Store} {table : RangeTable} {w : Window} {set : IndexSet} {names : List String}

/-! ## Indices of a set -/

/-- The names of the indices of a set that may hold documents of a window, in the order of a
search. -/
def RangeTable.managed (table : RangeTable) (set : IndexSet) (w : Window) : List String :=
  (orderRanges ((table.find w).filter fun range => set.manages range.name)).map IndexRange.name

theorem mem_managed {name : String} : name ∈ table.managed set w
    ↔ name ∈ (table.find w).map IndexRange.name ∧ set.manages name = true := by
  rw [RangeTable.managed, mem_names_orderRanges]
  simp only [List.mem_map, List.mem_filter]
  constructor
  · rintro ⟨range, ⟨hrange, hmanages⟩, rfl⟩
    exact ⟨⟨range, hrange, rfl⟩, hmanages⟩
  · rintro ⟨⟨range, hrange, rfl⟩, hmanages⟩
    exact ⟨range, ⟨hrange, hmanages⟩, rfl⟩

/-- An index that is left out is not in the set, if no name outside the set stands for one that
is. -/
theorem Store.manages_eq_false_of_mem_dropped {index : String}
    (hnames : ∀ name ∈ names, name ∈ (table.find w).map IndexRange.name)
    (hstands : ∀ name ∈ names, set.manages (store.resolveName name) = true →
      set.manages name = true)
    (hindex : index ∈ store.dropped names (table.managed set w)) : set.manages index = false := by
  obtain ⟨htarget, hnot⟩ := Store.mem_dropped.mp hindex
  obtain ⟨hex, name, hname, rfl⟩ := Store.mem_targets.mp htarget
  refine Bool.eq_false_iff.mpr fun hmanages => hnot ?_
  have hkept := mem_managed.mpr ⟨hnames name hname, hstands name hname hmanages⟩
  exact Store.mem_targets.mpr ⟨hex, name, hkept, rfl⟩

/-- **Where documents lie by their streams, no document of a stream is left out by it.** -/
theorem Store.Routed.not_carries_of_mem_dropped {streams : StreamLookup} {id : String}
    {stream : Stream} (h : store.Routed streams) (hstream : streams id = .ok stream)
    (hnames : ∀ name ∈ names, name ∈ (table.find w).map IndexRange.name)
    (hstands : ∀ name ∈ names, stream.indexSet.manages (store.resolveName name) = true →
      stream.indexSet.manages name = true) {index : String}
    (hindex : index ∈ store.dropped names (table.managed stream.indexSet w)) :
    ∀ document ∈ store.documents index, ¬document.Carries id := by
  intro document hdocument hcarries
  have hmanages := h index document hdocument id stream hstream hcarries
  rw [Store.manages_eq_false_of_mem_dropped hnames hstands hindex] at hmanages
  cases hmanages

/-! ## Searches -/

namespace Searcher

theorem indices_marked {text id : String} {stream : Stream} (searcher : Searcher)
    (scope : SearchScope) (htable : searcher.resolver.ranges = table.lookup)
    (hfilter : scope.filter = some text) (hmarker : markedStream? text = some id)
    (hstream : searcher.resolver.streams id = .ok stream) (w : Window) :
    searcher.indices { scope with indices := .resolve } w
      = .ok (table.managed stream.indexSet w) := by
  have hranges : searcher.resolver.rangesOf w scope.filter
      = .ok (orderRanges ((table.find w).filter fun range =>
          stream.indexSet.manages range.name)) := by
    rw [Resolver.rangesOf, htable, hfilter]
    simp only [RangeTable.lookup, Option.bind_some, hmarker, hstream]
  show (searcher.resolver.rangesOf w scope.filter).map _ = _
  rw [hranges]
  rfl

/-- **Leaving out indices by the stream of a filter.** Nothing is added, and nothing is lost exactly
if no index that is left out holds a selected document. Where documents lie by their streams, and no
name outside the stream's index set stands for an index of it, nothing is lost if the selected
documents are documents of the stream; or if the filter demands the marker, and only documents of
the stream satisfy that. -/
theorem resolve_marked (searcher : Searcher) (store : Store) (table : RangeTable) (now : Instant)
    (scope : SearchScope) (w : Window) (text id pattern : String) (stream : Stream) (q f : Clause)
    (htable : searcher.resolver.ranges = table.lookup)
    (hwindow : searcher.resolver.window now scope.range = .ok w)
    (hfilter : scope.filter = some text) (hmarker : markedStream? text = some id)
    (hstream : searcher.resolver.streams id = .ok stream)
    (hq : Query.parse scope.query = .ok q) (hf : Query.parse text = .ok f)
    (hpattern : ∀ name, name ∈ namesOfPattern pattern
      ↔ name ∈ (table.find w).map IndexRange.name) :
    let resolved : SearchScope := { scope with indices := .resolve }
    let listed : SearchScope := { scope with indices := .pattern pattern }
    let leftOut := store.dropped (namesOfPattern pattern) (table.managed stream.indexSet w)
    ∃ (narrowed full : Nat) (built : String),
      (searcher.run store.backend now resolved .count).result = .ok ⟨⟨narrowed⟩, 0, built⟩
      ∧ (searcher.run store.backend now listed .count).result = .ok ⟨⟨full⟩, 0, built⟩
      ∧ narrowed ≤ full
      ∧ (narrowed = full ↔ ∀ index ∈ leftOut, ∀ document ∈ store.documents index,
          q.selects f w.wholeMillis document = false)
      ∧ (store.Routed searcher.resolver.streams →
          (∀ range ∈ table.find w, stream.indexSet.manages (store.resolveName range.name) = true →
            stream.indexSet.manages range.name = true) →
          ((∀ index, ∀ document ∈ store.documents index,
              q.selects f w.wholeMillis document = true → document.Carries id) → narrowed = full)
          ∧ (f.Demands id true → (∀ index, ∀ document ∈ store.documents index,
              (Term.field "streams" id).matches document = true → document.Carries id) →
            narrowed = full)) := by
  intro resolved listed leftOut
  have hf' : Query.parse (scope.filter.getD "*") = .ok f := by
    rw [hfilter]
    exact hf
  have hresolve := indices_marked searcher scope htable hfilter hmarker hstream w
  have hlist : searcher.indices listed w = .ok (namesOfPattern pattern) := rfl
  have hkept : ∀ name ∈ table.managed stream.indexSet w, name ∈ namesOfPattern pattern :=
    fun name hname => (hpattern name).mpr (mem_managed.mp hname).1
  have hexact := store.length_hits_eq_iff hkept (q.selects f w.wholeMillis)
  refine ⟨_, _, _, run_count resolved hwindow hresolve hq hf', run_count listed hwindow hlist hq hf',
    Store.length_hits_le hkept _, hexact, fun hrouted hstands => ?_⟩
  have hstreams : (∀ index, ∀ document ∈ store.documents index,
      q.selects f w.wholeMillis document = true → document.Carries id) → ∀ index ∈ leftOut,
      ∀ document ∈ store.documents index, q.selects f w.wholeMillis document = false := by
    intro hcarries index hindex document hdocument
    -- a document that is selected and left out would be one of the stream
    have hnot := hrouted.not_carries_of_mem_dropped hstream (fun name => (hpattern name).mp)
      (fun name hname => by
        obtain ⟨range, hrange, rfl⟩ := List.mem_map.mp ((hpattern name).mp hname)
        exact hstands range hrange) hindex document hdocument
    exact Bool.eq_false_iff.mpr fun hselects => hnot (hcarries index document hdocument hselects)
  refine ⟨fun hcarries => hexact.mpr (hstreams hcarries), fun hdemands hmarked => ?_⟩
  refine hexact.mpr (hstreams fun index document hdocument hselects => ?_)
  have hmatches : f.matches document = true := (Bool.and_eq_true_iff.mp hselects).2
  exact hmarked index document hdocument (hdemands.marker_matches hmatches)

/-- Two indices and two streams: a marker that is one of two conditions. -/
theorem resolve_marked_conjunction :
    let inStream (id : String) : Document := ⟨.epoch, [("level", .str "x"),
      ("streams", .arr [.str id]), ("timestamp", .str "1970-01-01 00:00:00.000")]⟩
    let store : Store := ⟨[("a_0", [inStream "cd"]), ("b_0", [inStream "ab"])], [], .insertion 20⟩
    let table : RangeTable := ⟨[.latest "a_0" .epoch, .latest "b_0" .epoch]⟩
    let streams := lookupStream [⟨"ab", "", ⟨"b"⟩⟩, ⟨"cd", "", ⟨"a"⟩⟩]
    let searcher : Searcher := ⟨⟨table.lookup, streams, fun _ _ => .error .calendarEnd⟩, true⟩
    let resolved : SearchScope :=
      ⟨"*", some "level:x AND streams:ab", .absolute .epoch .epoch, .resolve⟩
    let listed : SearchScope := { resolved with indices := .pattern "a_0,b_0" }
    (searcher.run store.backend .epoch resolved .count).result
      = (searcher.run store.backend .epoch listed .count).result := by
  intro inStream store table streams searcher resolved listed
  have hquery : Query.parse "*" = .ok (.term .all) := rfl
  have hfilter : Query.parse "level:x AND streams:ab"
      = .ok (.and [.term (.field "level" "x"), .term (.field "streams" "ab")]) := by cbv
  have hstream : streams "ab" = .ok ⟨"ab", "", ⟨"b"⟩⟩ := by cbv
  have hpattern : namesOfPattern "a_0,b_0"
      = (table.find ⟨.epoch, .epoch⟩).map IndexRange.name := by cbv
  obtain ⟨narrowed, full, built, hnarrowed, hfull, _, _, hsound⟩ := resolve_marked searcher store
    table .epoch resolved ⟨.epoch, .epoch⟩ "level:x AND streams:ab" "ab" "a_0,b_0" ⟨"ab", "", ⟨"b"⟩⟩
    (.term .all) (.and [.term (.field "level" "x"), .term (.field "streams" "ab")]) rfl (by cbv) rfl
    (by cbv) hstream hquery hfilter (by rw [hpattern]; exact fun _ => Iff.rfl)
  have hab : (inStream "ab").values "streams" = [.str "ab"] := by cbv
  have hcd : (inStream "cd").values "streams" = [.str "cd"] := by cbv
  have hrouted : store.Routed streams := by
    refine Store.routed_of_stored ?_
    simp only [store, List.forall_mem_cons, List.mem_singleton, forall_eq, Document.Carries, hab, hcd,
      Json.str.injEq]
    exact ⟨⟨fun h => absurd h (by decide), fun _ => by cbv⟩, fun _ => by cbv,
      fun h => absurd h (by decide)⟩
  have hmarked : ∀ index, ∀ document ∈ store.documents index,
      (Term.field "streams" "ab").matches document = true → document.Carries "ab" := by
    intro index document hdocument hmatches
    obtain ⟨documents, hstored, hdocument⟩ := Store.exists_mem_of_mem_documents hdocument
    simp only [store, List.mem_cons, Prod.mk.injEq, List.not_mem_nil, or_false] at hstored
    obtain ⟨-, rfl⟩ | ⟨-, rfl⟩ := hstored
    · obtain rfl := List.mem_singleton.mp hdocument
      rw [show (Term.field "streams" "ab").matches (inStream "cd") = false by cbv] at hmatches
      cases hmatches
    · obtain rfl := List.mem_singleton.mp hdocument
      rw [Document.Carries, hab]
      exact List.mem_singleton_self _
  have heq := (hsound hrouted fun _ _ h => h).2
    (.and (List.mem_cons_of_mem _ List.mem_cons_self) .marker) hmarked
  rw [hnarrowed, hfull, heq]

/-- A marker in a disjunction: a document that lies in no stream is selected, and lost. -/
theorem resolve_marked_loses :
    let store : Store := ⟨[("a_0",
      [⟨.epoch, [("level", .str "x"), ("timestamp", .str "1970-01-01 00:00:00.000")]⟩])], [],
        .insertion 20⟩
    let table : RangeTable := ⟨[.latest "a_0" .epoch]⟩
    let streams := lookupStream [⟨"ab", "", ⟨"b"⟩⟩]
    let searcher : Searcher := ⟨⟨table.lookup, streams, fun _ _ => .error .calendarEnd⟩, true⟩
    let resolved : SearchScope :=
      ⟨"*", some "level:x OR streams:ab", .absolute .epoch .epoch, .resolve⟩
    let listed : SearchScope := { resolved with indices := .pattern "a_0" }
    store.Routed streams
      ∧ markedStream? "level:x OR streams:ab" = some "ab"
      ∧ streams "ab" = .ok ⟨"ab", "", ⟨"b"⟩⟩
      ∧ Query.parse "*" = .ok (.term .all)
      ∧ Query.parse "level:x OR streams:ab"
        = .ok (.or [.term (.field "level" "x"), .term (.field "streams" "ab")])
      ∧ (⟨.epoch, .epoch⟩ : Window).IsWhole
      ∧ namesOfPattern "a_0" = (table.find ⟨.epoch, .epoch⟩).map IndexRange.name
      ∧ ∃ built, (searcher.run store.backend .epoch resolved .count).result = .ok ⟨⟨0⟩, 0, built⟩
        ∧ (searcher.run store.backend .epoch listed .count).result = .ok ⟨⟨1⟩, 0, built⟩ := by
  intro store table streams searcher resolved listed
  have hquery : Query.parse "*" = .ok (.term .all) := rfl
  have hfilter : Query.parse "level:x OR streams:ab"
      = .ok (.or [.term (.field "level" "x"), .term (.field "streams" "ab")]) := by cbv
  have hstream : streams "ab" = .ok ⟨"ab", "", ⟨"b"⟩⟩ := by cbv
  have hmarker : markedStream? "level:x OR streams:ab" = some "ab" := by cbv
  have hwindow : searcher.resolver.window .epoch resolved.range = .ok ⟨.epoch, .epoch⟩ := by cbv
  have hnone : table.managed ⟨"b"⟩ ⟨.epoch, .epoch⟩ = [] := by cbv
  have hresolve : searcher.indices resolved ⟨.epoch, .epoch⟩ = .ok [] := by
    rw [← hnone]
    exact indices_marked searcher resolved rfl rfl hmarker hstream _
  have hlist : searcher.indices listed ⟨.epoch, .epoch⟩ = .ok ["a_0"] := by cbv
  have hlost : (store.hits ["a_0"] ((Clause.term .all).selects
      (.or [.term (.field "level" "x"), .term (.field "streams" "ab")])
      (⟨.epoch, .epoch⟩ : Window).wholeMillis)).length = 1 := by cbv
  have hcount : (searcher.run store.backend .epoch listed .count).result = .ok ⟨⟨_⟩, 0, _⟩ :=
    run_count listed hwindow hlist hquery hfilter
  rw [hlost] at hcount
  refine ⟨?_, hmarker, hstream, hquery, hfilter, ⟨rfl, rfl⟩, by cbv, _,
    run_count resolved hwindow hresolve hquery hfilter, hcount⟩
  refine Store.routed_of_stored fun stored hstored document hdocument stream _ hcarries => ?_
  obtain rfl := List.mem_singleton.mp hstored
  obtain rfl := List.mem_singleton.mp hdocument
  cases hcarries

end Searcher

end LogSearch
