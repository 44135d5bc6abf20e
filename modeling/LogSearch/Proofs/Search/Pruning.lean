import LogSearch.Proofs.Index.Resolution
import LogSearch.Proofs.Search.Names
import LogSearch.Proofs.Search.Run

/-!
# Leaving out indices by their time

A table of index ranges lets a search leave out the indices that hold nothing of its window. If the
table says truthfully where the documents of a store lie in time (`RangeTable.Covers`), nothing is
lost that way.

Main statement: counts and histograms over the indices that the table resolves are those over all
names of the table (`resolve_eq_listed`).
-/

namespace LogSearch

/-- A table that knows where the documents of a store lie in time. -/
structure RangeTable.Covers (table : RangeTable) (store : Store) : Prop where
  plain : ∀ range ∈ table.ranges, PlainName range.name
  /-- The names are those of indices, not of aliases. -/
  physical : ∀ range ∈ table.ranges, store.aliasTarget range.name = none
  /-- Unless an index is still being written to, each of its documents lies in one of its spans. -/
  covered : ∀ range ∈ table.ranges,
    (∀ other ∈ table.ranges, other.name = range.name → other.isLatest = false) →
    ∀ document ∈ store.documents range.name, ∃ other ∈ table.ranges, other.name = range.name
      ∧ other.start ≤ document.timestamp ∧ document.timestamp ≤ other.stop

variable {store : Store} {table : RangeTable} {w : Window} {names : List String}

/-! ## Spans and windows -/

/-- A span and a window that have an instant in common meet. -/
theorem IndexRange.mayContain_of_common {range : IndexRange} {t : Instant}
    (hstart : range.start ≤ t) (hstop : t ≤ range.stop) (hw : w.covers t = true) :
    range.mayContain w = true := by
  rw [Window.covers_iff] at hw
  exact mayContain_iff.mpr (.inr ⟨Instant.le_trans hstart hw.2, Instant.le_trans hw.1 hstop⟩)

theorem IndexRange.mayContain_of_isLatest {range : IndexRange} (h : range.isLatest = true) :
    range.mayContain w = true :=
  mayContain_iff.mpr (.inl h)

/-- The names of the indices that may hold documents of a window, in the order of a search. -/
def RangeTable.resolved (table : RangeTable) (w : Window) : List String :=
  (orderRanges (table.find w)).map IndexRange.name

theorem mem_resolved {name : String} : name ∈ table.resolved w
    ↔ ∃ range ∈ table.ranges, range.mayContain w = true ∧ range.name = name := by
  rw [RangeTable.resolved, mem_names_orderRanges, RangeTable.find]
  simp only [List.mem_map, List.mem_filter, and_assoc]

/-! ## What is left out -/

/-- **No document of an index that is left out lies in the window.** -/
theorem RangeTable.Covers.covers_eq_false (h : table.Covers store)
    (hnames : ∀ name, name ∈ names ↔ name ∈ table.ranges.map IndexRange.name) {index : String}
    (hindex : index ∈ store.dropped names (table.resolved w)) :
    ∀ document ∈ store.documents index, w.covers document.timestamp = false := by
  obtain ⟨htarget, hnot⟩ := Store.mem_dropped.mp hindex
  obtain ⟨hex, name, hname, hresolve⟩ := Store.mem_targets.mp htarget
  obtain ⟨range, hrange, rfl⟩ := List.mem_map.mp ((hnames name).mp hname)
  have hself : store.resolveName range.name = range.name := by
    rw [Store.resolveName, h.physical range hrange]
    rfl
  obtain rfl : range.name = index := hself.symm.trans hresolve
  -- no span of the index meets the window
  have hmeets : ∀ other ∈ table.ranges, other.name = range.name → other.mayContain w = false := by
    intro other hother heq
    refine Bool.eq_false_iff.mpr fun hmay => hnot ?_
    exact Store.mem_targets.mpr ⟨hex, range.name, mem_resolved.mpr ⟨other, hother, hmay, heq⟩, hself⟩
  intro document hdocument
  obtain ⟨other, hother, heq, hstart, hstop⟩ := h.covered range hrange (by
    intro other hother heq
    refine Bool.eq_false_iff.mpr fun hlatest => ?_
    have hmay := IndexRange.mayContain_of_isLatest (w := w) hlatest
    rw [hmeets other hother heq] at hmay
    cases hmay) document hdocument
  refine Bool.eq_false_iff.mpr fun hcovers => ?_
  have hmay := IndexRange.mayContain_of_common hstart hstop hcovers
  rw [hmeets other hother heq] at hmay
  cases hmay

/-- The same documents are found, in some order. -/
theorem RangeTable.Covers.hits_perm (h : table.Covers store)
    (hnames : ∀ name, name ∈ names ↔ name ∈ table.ranges.map IndexRange.name) (q f : Clause) :
    (store.hits names (q.selects f w)).Perm (store.hits (table.resolved w) (q.selects f w)) := by
  refine Store.hits_perm ?_ ?_
  · intro name hname
    obtain ⟨range, hrange, _, rfl⟩ := mem_resolved.mp hname
    exact (hnames _).mpr (List.mem_map_of_mem hrange)
  · intro index hindex document hdocument
    simp [Clause.selects, h.covers_eq_false hnames hindex document hdocument]

/-! ## Searches -/

namespace Searcher

variable {searcher : Searcher} {scope : SearchScope}

theorem indices_resolve (htable : searcher.resolver.ranges = table.lookup)
    (hmarker : scope.filter.bind markedStream? = none) (w : Window) :
    searcher.indices { scope with indices := .resolve } w = .ok (table.resolved w) := by
  have hranges : searcher.resolver.rangesOf w scope.filter = .ok (orderRanges (table.find w)) := by
    rw [Resolver.rangesOf, htable]
    simp only [RangeTable.lookup, hmarker]
  show (searcher.resolver.rangesOf w scope.filter).map _ = _
  rw [hranges]
  rfl

theorem indices_listed (h : ∀ name ∈ names, PlainName name) (searcher : Searcher)
    (scope : SearchScope) (w : Window) :
    searcher.indices { scope with indices := .pattern (",".intercalate names) } w = .ok names := by
  show Except.ok (namesOfPattern (",".intercalate names)) = _
  rw [namesOfPattern_intercalate h]

/-- The filter of a search whose texts are queries. -/
theorem exists_parse_filter {filter : Option String}
    (h : ∀ text ∈ filter, ∃ c, Query.parse text = .ok c) :
    ∃ f, Query.parse (filter.getD "*") = .ok f := by
  cases filter with
  | none => exact ⟨.term .all, rfl⟩
  | some text => exact h text rfl

/-- **Leaving out indices by their time changes neither counts nor histograms.** In a window whose
ends are in order both have a result, the histogram if weeks do not begin before the calendar. -/
theorem resolve_eq_listed (searcher : Searcher) (store : Store) (table : RangeTable) (now : Instant)
    (scope : SearchScope) (start stop : Instant) (names : List String)
    (htable : searcher.resolver.ranges = table.lookup) (hcovers : table.Covers store)
    (hrange : scope.range = .absolute start stop) (hwhole : (⟨start, stop⟩ : Window).IsWhole)
    (hnames : ∀ name, name ∈ names ↔ name ∈ table.ranges.map IndexRange.name)
    (hquery : ∃ q, Query.parse scope.query = .ok q)
    (hfilter : ∀ text ∈ scope.filter, ∃ f, Query.parse text = .ok f)
    (hmarker : scope.filter.bind markedStream? = none) :
    let resolved : SearchScope := { scope with indices := .resolve }
    let listed : SearchScope := { scope with indices := .pattern (",".intercalate names) }
    (searcher.run store.backend now resolved .count).result
        = (searcher.run store.backend now listed .count).result
      ∧ (∀ interval, (searcher.run store.backend now resolved (.histogram interval)).result
        = (searcher.run store.backend now listed (.histogram interval)).result)
      ∧ (start ≤ stop →
        (∃ count, (searcher.run store.backend now resolved .count).result = .ok count)
        ∧ ∀ interval, (interval = .week → minDay + 6 ≤ start.day) →
          ∃ histogram, (searcher.run store.backend now resolved (.histogram interval)).result
            = .ok histogram) := by
  intro resolved listed
  obtain ⟨q, hq⟩ := hquery
  obtain ⟨f, hf⟩ := exists_parse_filter hfilter
  -- a reversed range fails before indices are looked up
  by_cases hle : start ≤ stop
  · have hwindow := window_of_le searcher now hrange hle
    have hplain : ∀ name ∈ names, PlainName name := by
      intro name hname
      obtain ⟨range, hmem, rfl⟩ := List.mem_map.mp ((hnames name).mp hname)
      exact hcovers.plain range hmem
    have hresolve := indices_resolve htable hmarker ⟨start, stop⟩
    have hlist := indices_listed hplain searcher scope ⟨start, stop⟩
    have hperm : (store.hits (table.resolved ⟨start, stop⟩)
          (q.selects f (⟨start, stop⟩ : Window).wholeMillis)).Perm
        (store.hits names (q.selects f (⟨start, stop⟩ : Window).wholeMillis)) := by
      rw [hwhole.wholeMillis_eq]
      exact (hcovers.hits_perm hnames q f).symm
    refine ⟨?_, fun interval => ?_, fun _ => ⟨?_, fun interval hweek => ?_⟩⟩
    · rw [run_count resolved hwindow hresolve hq hf, run_count listed hwindow hlist hq hf,
        hperm.length_eq]
      rfl
    · rw [run_histogram resolved hwindow hresolve hq hf, run_histogram listed hwindow hlist hq hf,
        Histogram.tally_groups_perm hperm]
      rfl
    · exact ⟨_, run_count resolved hwindow hresolve hq hf⟩
    · exact exists_run_histogram resolved hwindow hresolve hq hf hweek
  · have hwindow := window_of_not_le searcher now hrange hle
    refine ⟨?_, fun interval => ?_, fun h => absurd h hle⟩
    · rw [run_of_no_window resolved hwindow, run_of_no_window listed hwindow]
    · rw [run_of_no_window resolved hwindow, run_of_no_window listed hwindow]

/-- A window that meets a span in its last instant only, beside an index without bounds; a third
index is left out, though the query finds its document. -/
theorem resolve_eq_listed_touching :
    let early : Instant :=
      ⟨-1, 0, 0, by decide, by decide, by decide, by decide, by decide⟩
    let late : Instant := ⟨1, 0, 0, by decide, by decide, by decide, by decide, by decide⟩
    let found (t : Instant) : Document := ⟨t, [("level", .str "x")]⟩
    let store : Store := ⟨[("a_0", [found early, found .epoch]), ("a_1", [found .epoch]),
      ("a_2", [found late])], [], .insertion 20⟩
    let table : RangeTable :=
      ⟨[⟨"a_0", .bounded early .epoch (by decide), .epoch, 0, none⟩, .latest "a_1" .epoch,
        ⟨"a_2", .bounded late late (by decide), .epoch, 0, none⟩]⟩
    let searcher : Searcher :=
      ⟨⟨table.lookup, lookupStream [], fun _ _ => .error .calendarEnd⟩, true⟩
    let scope : SearchScope := ⟨"level:x", none, .absolute .epoch .epoch, .resolve⟩
    let listed : SearchScope :=
      { scope with indices := .pattern (",".intercalate ["a_0", "a_1", "a_2"]) }
    table.resolved ⟨.epoch, .epoch⟩ = ["a_0", "a_1"]
      ∧ ∃ count, count.result.count = 2
        ∧ (searcher.run store.backend .epoch scope .count).result = .ok count
        ∧ (searcher.run store.backend .epoch listed .count).result = .ok count := by
  intro early late found store table searcher scope listed
  have hplain : ∀ name ∈ ["a_0", "a_1", "a_2"], PlainName name := by
    intro name hname
    simp only [List.mem_cons, List.not_mem_nil, or_false] at hname
    rcases hname with rfl | rfl | rfl <;> exact ⟨by decide, by decide, by decide⟩
  have hfirst : store.documents "a_0" = [found early, found .epoch] := by cbv
  have hthird : store.documents "a_2" = [found late] := by cbv
  have hcovers : table.Covers store := by
    refine ⟨fun range hrange => hplain range.name (List.mem_map_of_mem hrange), fun _ _ => rfl, ?_⟩
    intro range hrange hbounded document hdocument
    refine ⟨range, hrange, rfl, ?_⟩
    have hmem : range ∈ table.ranges := hrange
    simp only [table, List.mem_cons, List.not_mem_nil, or_false] at hmem
    rcases hmem with rfl | rfl | rfl
    · have hdoc : document ∈ store.documents "a_0" := hdocument
      rw [hfirst] at hdoc
      simp only [List.mem_cons, List.not_mem_nil, or_false] at hdoc
      rcases hdoc with rfl | rfl <;> decide
    · have hlatest := hbounded _ hrange rfl
      cases hlatest
    · have hdoc : document ∈ store.documents "a_2" := hdocument
      rw [hthird] at hdoc
      obtain rfl := List.mem_singleton.mp hdoc
      decide
  have hquery : Query.parse "level:x" = .ok (.term (.field "level" "x")) := by cbv
  have hfilter : Query.parse "*" = .ok (.term .all) := rfl
  have hnames : table.resolved ⟨.epoch, .epoch⟩ = ["a_0", "a_1"] := by cbv
  have hw : searcher.resolver.window .epoch scope.range = .ok ⟨.epoch, .epoch⟩ :=
    window_of_le searcher .epoch rfl (by decide)
  have hn : searcher.indices scope ⟨.epoch, .epoch⟩ = .ok ["a_0", "a_1"] := by cbv
  have htwo : (store.hits ["a_0", "a_1"] ((Clause.term (.field "level" "x")).selects (.term .all)
      (⟨.epoch, .epoch⟩ : Window).wholeMillis)).length = 2 := by cbv
  have hresolved : (searcher.run store.backend .epoch scope .count).result = _ :=
    run_count scope hw hn hquery hfilter
  rw [htwo] at hresolved
  have hlisted := (resolve_eq_listed searcher store table .epoch scope .epoch .epoch
    ["a_0", "a_1", "a_2"] rfl hcovers rfl ⟨rfl, rfl⟩ (fun _ => Iff.rfl) ⟨_, hquery⟩
    (by simp [scope]) rfl).1
  exact ⟨hnames, _, rfl, hresolved, hlisted.symm.trans hresolved⟩

end Searcher

end LogSearch
