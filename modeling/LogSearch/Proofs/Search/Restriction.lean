import LogSearch.Proofs.Search.Answers
import LogSearch.Proofs.Search.Narrowing
import LogSearch.Proofs.Time.Millis

/-!
# Restricting a search

A search is restricted by a shorter window and by a filter. Both may change which indices it goes
over, and what it asks of a document: the ends of the window, cut to milliseconds, and the filter.
Each of these only takes something away. A range that meets the shorter window meets the longer one
(`IndexRange.mayContain_mono`), and a stream named by the filter leaves some of these ranges
(`indices_subset_resolved`). So fewer names are searched, and a document that is still selected was
selected before (`Clause.selects_mono`).

Main statement: a restricted search counts at most as many hits (`count_restricted_le`).
-/

namespace LogSearch

/-! ## Windows within windows -/

/-- One window lies within another. -/
structure Window.Within (w wide : Window) : Prop where
  start : wide.start ≤ w.start
  stop : w.stop ≤ wide.stop

namespace Window.Within

variable {w wide : Window}

theorem wholeMillis (h : w.Within wide) : w.wholeMillis.Within wide.wholeMillis :=
  ⟨Instant.wholeMillis_mono h.start, Instant.wholeMillis_mono h.stop⟩

theorem covers (h : w.Within wide) {t : Instant} (ht : w.covers t = true) :
    wide.covers t = true := by
  rw [Window.covers_iff] at ht ⊢
  exact ⟨Instant.le_trans h.start ht.1, Instant.le_trans ht.2 h.stop⟩

end Window.Within

variable {w wide : Window} {table : RangeTable} {store : Store} {names kept : List String}

/-! ## Names -/

/-- A range that may hold documents of a window may hold some of a longer one. -/
theorem IndexRange.mayContain_mono {range : IndexRange} (h : w.Within wide)
    (hrange : range.mayContain w = true) : range.mayContain wide = true := by
  rw [mayContain_iff] at hrange ⊢
  obtain hlatest | ⟨hstart, hstop⟩ := hrange
  · exact .inl hlatest
  · exact .inr ⟨Instant.le_trans hstart h.stop, Instant.le_trans h.start hstop⟩

theorem RangeTable.resolved_mono (h : w.Within wide) {name : String}
    (hname : name ∈ table.resolved w) : name ∈ table.resolved wide := by
  obtain ⟨range, hrange, hmay, rfl⟩ := mem_resolved.mp hname
  exact mem_resolved.mpr ⟨range, hrange, range.mayContain_mono h hmay, rfl⟩

/-- **A filter adds no index.** -/
theorem Searcher.indices_subset_resolved {searcher : Searcher} (scope : SearchScope)
    (htable : searcher.resolver.ranges = table.lookup)
    (hn : searcher.indices { scope with indices := .resolve } w = .ok names) :
    ∀ name ∈ names, name ∈ table.resolved w := by
  intro name hname
  cases hmarker : scope.filter.bind markedStream? with
  | none =>
    rw [indices_resolve htable hmarker] at hn
    obtain rfl := Except.ok.inj hn
    exact hname
  | some id =>
    obtain ⟨text, hfilter, hid⟩ := Option.bind_eq_some_iff.mp hmarker
    cases hstream : searcher.resolver.streams id with
    | error e =>
      simp only [indices, Resolver.rangesOf, htable, RangeTable.lookup, hmarker, hstream] at hn
      cases hn
    | ok stream =>
      rw [indices_marked searcher scope htable hfilter hid hstream] at hn
      obtain rfl := Except.ok.inj hn
      obtain ⟨hfound, -⟩ := mem_managed.mp hname
      rw [RangeTable.resolved, mem_names_orderRanges]
      exact hfound

/-! ## Hits -/

/-- **A restricted condition selects nothing new.** -/
theorem Clause.selects_mono {q f : Clause} {document : Document} (h : w.Within wide)
    (hselects : q.selects f w document = true) :
    q.selects (.term .all) wide document = true := by
  simp only [selects, Bool.and_eq_true] at hselects ⊢
  exact ⟨⟨hselects.1.1, h.covers hselects.1.2⟩, rfl⟩

/-- **Fewer names and a stronger condition add no hit.** -/
theorem Store.hits_subperm (h : ∀ name ∈ kept, name ∈ names) {strong weak : Document → Bool}
    (hcondition : ∀ document, strong document = true → weak document = true) :
    (store.hits kept strong).Subperm (store.hits names weak) := by
  have hnames : (store.hits kept strong).Subperm (store.hits names strong) :=
    (List.sublist_append_left _ _).subperm.trans (store.hits_perm_append h strong).symm.subperm
  have hdocuments : (store.hits names strong).Sublist (store.hits names weak) :=
    List.monotone_filter_right _ hcondition
  exact hnames.trans hdocuments.subperm

/-! ## Searches -/

namespace Searcher

/-- **Restricting a search never adds hits.** A query over the indices of a table counts at most as
many hits in a window as in a longer one, and a filter does not change this, if it is a query and
names no stream that is not known. Both counts are given. -/
theorem count_restricted_le (searcher : Searcher) (store : Store) (table : RangeTable)
    (now later : Instant) (query : String) (filter : Option String)
    (first start stop last : Instant) (htable : searcher.resolver.ranges = table.lookup)
    (hquery : ∃ q, Query.parse query = .ok q)
    (hfilter : ∀ text ∈ filter, ∃ f, Query.parse text = .ok f)
    (hstream : ∀ id ∈ filter.bind markedStream?,
      ∃ stream, searcher.resolver.streams id = .ok stream)
    (hfirst : first ≤ start) (hle : start ≤ stop) (hlast : stop ≤ last) :
    let narrow : SearchScope := ⟨query, filter, .absolute start stop, .resolve⟩
    let wide : SearchScope := ⟨query, none, .absolute first last, .resolve⟩
    ∃ fewer more, (searcher.run store.backend now narrow .count).result = .ok fewer
      ∧ (searcher.run store.backend later wide .count).result = .ok more
      ∧ fewer.result.count ≤ more.result.count := by
  intro narrow wide
  obtain ⟨q, hq⟩ := hquery
  obtain ⟨f, hf⟩ := exists_parse_filter hfilter
  have hall : Query.parse "*" = .ok (.term .all) := rfl
  have hwithin : (⟨start, stop⟩ : Window).Within ⟨first, last⟩ := ⟨hfirst, hlast⟩
  have hwide : first ≤ last := Instant.le_trans hfirst (Instant.le_trans hle hlast)
  have hwindow : searcher.resolver.window now narrow.range = .ok ⟨start, stop⟩ :=
    window_of_le searcher now rfl hle
  have hwindow' : searcher.resolver.window later wide.range = .ok ⟨first, last⟩ :=
    window_of_le searcher later rfl hwide
  -- the indices on both sides
  obtain ⟨names, hn⟩ : ∃ names, searcher.indices narrow ⟨start, stop⟩ = .ok names :=
    exists_indices (fun _ => ⟨_, by rw [htable, RangeTable.lookup]⟩) fun _ => hstream
  have hunmarked : wide.filter.bind markedStream? = none := rfl
  have hn' : searcher.indices wide ⟨first, last⟩ = .ok (table.resolved ⟨first, last⟩) :=
    indices_resolve htable hunmarked ⟨first, last⟩
  have hnames : ∀ name ∈ names, name ∈ table.resolved ⟨first, last⟩ := fun name hname =>
    RangeTable.resolved_mono hwithin (indices_subset_resolved narrow htable hn name hname)
  -- what is asked of a document on both sides
  have hcondition : ∀ document,
      q.selects f (⟨start, stop⟩ : Window).wholeMillis document = true →
      q.selects (.term .all) (⟨first, last⟩ : Window).wholeMillis document = true :=
    fun _ => Clause.selects_mono hwithin.wholeMillis
  have hhits := store.hits_subperm hnames hcondition
  exact ⟨_, _, run_count narrow hwindow hn hq hf, run_count wide hwindow' hn' hq hall,
    hhits.length_le⟩

/-- A shorter window and a stream, over an index under two names and one of another stream. -/
theorem count_restricted_le_stream :
    let tick : Instant := ⟨0, 0, 1, by decide, by decide, by decide, by decide, by decide⟩
    let later : Instant := ⟨1, 0, 0, by decide, by decide, by decide, by decide, by decide⟩
    let inStream (t : Instant) (id : String) : Document := ⟨t, [("streams", .arr [.str id])]⟩
    let store : Store := ⟨[("a_0", [inStream .epoch "ab", inStream later "ab"]),
      ("b_0", [inStream .epoch "cd"])], [("a", "a_0")], .insertion 20⟩
    let table : RangeTable :=
      ⟨[.latest "a" .epoch, ⟨"a_0", .bounded .epoch tick (by decide), .epoch, 0, none⟩,
        .latest "b_0" .epoch]⟩
    let searcher : Searcher := ⟨⟨table.lookup, lookupStream [⟨"ab", "", ⟨"a"⟩⟩],
      fun _ _ => .error .calendarEnd⟩, true⟩
    let narrow : SearchScope := ⟨"*", some "streams:ab", .absolute tick tick, .resolve⟩
    let wide : SearchScope := ⟨"*", none, .absolute .epoch later, .resolve⟩
    ∃ fewer more, (searcher.run store.backend .epoch narrow .count).result = .ok fewer
      ∧ (searcher.run store.backend later wide .count).result = .ok more
      ∧ fewer.result.count ≤ more.result.count := by
  intro tick later inStream store table searcher narrow wide
  have hquery : Query.parse "*" = .ok (.term .all) := rfl
  have hfilter : Query.parse "streams:ab" = .ok (.term (.field "streams" "ab")) := by cbv
  have hmarker : (some "streams:ab").bind markedStream? = some "ab" := by cbv
  have hstream : searcher.resolver.streams "ab" = .ok ⟨"ab", "", ⟨"a"⟩⟩ := by cbv
  refine count_restricted_le searcher store table .epoch later "*" (some "streams:ab") .epoch tick
    tick later rfl ⟨_, hquery⟩ ?_ ?_ (by decide) (by decide) (by decide)
  · intro text htext
    obtain rfl := Option.some.inj htext
    exact ⟨_, hfilter⟩
  · intro id hid
    obtain rfl := Option.some.inj (hmarker.symm.trans hid)
    exact ⟨_, hstream⟩

end Searcher

end LogSearch
