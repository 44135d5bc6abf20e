import LogSearch.Proofs.Search.Histogram
import LogSearch.Proofs.Search.Pruning
import LogSearch.Proofs.Search.Rows
import LogSearch.Search.Service

/-!
# Which searches of a store have a result

An operation writes a request, a store computes the answer, and the operation reads it. The three
fit together: whatever the documents hold, an operation has a result for hits, provided that the week
of each hit begins within the calendar and that the buckets can be sorted if they have to be
(`SearchCall.exists_onHits`). Without indices it gives what it makes of no hits
(`SearchCall.read_none`).

Main statement: a search whose texts are queries and whose indices are known has a result exactly if
there is an end to the sorting of its buckets; every request on the way is answered then, and its
answer is read (`exists_run_call`).
-/

namespace LogSearch

/-! ## Operations -/

namespace SearchCall

variable {call : SearchCall} {sorter : Sorter} {hits : List Document} {orders : List TermsOrder}
  {buckets : List TermBucket}

/-- **Without indices the result of an operation is that of no hits.** -/
theorem read_none (call : SearchCall) (sorter : Sorter) (w : Window) :
    call.operation.read w none = call.operation.onHits sorter w [] := by
  cases call with
  | count => rfl
  | terms field size direction => exact Operation.read_terms_none sorter field size direction w
  | groupedStats keyField valueField order size =>
    exact Operation.read_groupedStats_none sorter keyField valueField order size w
  | histogram interval => exact Operation.read_histogram_none sorter interval w
  | fieldHistogram field interval full =>
    exact Operation.read_fieldHistogram_none sorter field interval full w
  | fieldStats field => exact Operation.read_fieldStats_none sorter field w

/-! ### Buckets to be sorted -/

/-- The buckets that an operation has sorted for hits, with the criteria. -/
def sorting? (call : SearchCall) (hits : List Document) :
    Option (List TermsOrder × List TermBucket) :=
  match call with
  | .terms field _ direction =>
    some (Operation.byCount direction, Operation.termBuckets field hits)
  | .groupedStats keyField valueField order _ =>
    some (order.criteria, Operation.groupBuckets keyField valueField hits)
  | .count => none
  | .histogram _ => none
  | .fieldHistogram .. => none
  | .fieldStats _ => none

/-- There is an end to the sorting of what an operation has sorted. -/
def Sorts (call : SearchCall) (sorter : Sorter) (hits : List Document) : Prop :=
  ∀ orders buckets, call.sorting? hits = some (orders, buckets) →
    ∃ sorted, sorter.sort? orders buckets = some sorted

/-- What an operation has sorted has an order. -/
def Ordered (call : SearchCall) (hits : List Document) : Prop :=
  ∀ orders buckets, call.sorting? hits = some (orders, buckets) →
    TermBucket.TransOn buckets (TermBucket.cmp orders)

/-- The keys of what an operation has sorted agree. -/
def Agrees (call : SearchCall) (hits : List Document) : Prop :=
  ∀ orders buckets, call.sorting? hits = some (orders, buckets) → TermBucket.Agree buckets

/-- **Which hits every sorter can deal with.** -/
theorem forall_sorts_iff : (∀ sorter, call.Sorts sorter hits) ↔ call.Ordered hits := by
  constructor
  · exact fun h orders buckets hsorting =>
      Sorter.exists_sort?_iff.mp fun sorter => h sorter orders buckets hsorting
  · exact fun h sorter orders buckets hsorting =>
      Sorter.exists_sort?_iff.mpr (h orders buckets hsorting) sorter

/-- Keys that agree have an order. -/
theorem Agrees.ordered (h : call.Agrees hits) : call.Ordered hits := by
  intro orders buckets hsorting
  have hagree := h orders buckets hsorting
  -- nothing is sorted inside the buckets, so any sorter does
  cases call with
  | terms field size direction =>
    obtain ⟨rfl, rfl⟩ := Prod.mk.inj (Option.some.inj hsorting)
    exact TermGroup.trans_of_agree (Operation.gives_nil (.insertion 0)) hagree _
  | groupedStats keyField valueField order size =>
    obtain ⟨rfl, rfl⟩ := Prod.mk.inj (Option.some.inj hsorting)
    exact TermGroup.trans_of_agree (Operation.gives_groupResults (.insertion 0) valueField) hagree _
  | count => cases hsorting
  | histogram interval => cases hsorting
  | fieldHistogram field interval full => cases hsorting
  | fieldStats field => cases hsorting

/-- There is nothing to sort but buckets. -/
theorem sorts_of_none (h : call.sorting? hits = none) : call.Sorts sorter hits := by
  intro orders buckets hsorting
  rw [h] at hsorting
  cases hsorting

/-- Without hits there are no buckets. -/
theorem sorts_nil (call : SearchCall) (sorter : Sorter) : call.Sorts sorter [] := by
  intro orders buckets hsorting
  have hnil : buckets = [] := by
    cases call with
    | terms field size direction => exact (Prod.mk.inj (Option.some.inj hsorting)).2.symm
    | groupedStats keyField valueField order size =>
      exact (Prod.mk.inj (Option.some.inj hsorting)).2.symm
    | count => cases hsorting
    | histogram interval => cases hsorting
    | fieldHistogram field interval full => cases hsorting
    | fieldStats field => cases hsorting
  rw [hnil]
  exact ⟨[], sorter.sort?_nil orders⟩

theorem sort?_eq_none (hsorting : call.sorting? hits = some (orders, buckets))
    (h : ¬call.Sorts sorter hits) : sorter.sort? orders buckets = none := by
  refine Option.eq_none_iff_forall_ne_some.mpr fun sorted hsorted => h fun others found hfound => ?_
  obtain ⟨rfl, rfl⟩ := Prod.mk.inj (Option.some.inj (hsorting.symm.trans hfound))
  exact ⟨sorted, hsorted⟩

/-! ### Results -/

/-- **An operation has a result for hits**, if each lies in a bucket of every interval and what has to
be sorted can be. -/
theorem exists_onHits (call : SearchCall) (w : Window)
    (h : ∀ document ∈ hits, ∀ interval : Interval, (interval.truncate? document.timestamp).isSome)
    (hsorts : call.Sorts sorter hits) :
    ∃ result, call.operation.onHits sorter w hits = .ok result := by
  have hgroups (interval : Interval) :
      ∃ found, Histogram.groups "timestamp" interval hits = .ok found := by
    obtain ⟨found, hfound, _⟩ := Histogram.groups_grouped fun document hdocument =>
      Histogram.placed_timestamp (h document hdocument interval)
    exact ⟨found, hfound⟩
  cases call with
  | count => exact ⟨_, Operation.onHits_count sorter w hits⟩
  | terms field size direction =>
    obtain ⟨sorted, hsorted⟩ := hsorts _ _ rfl
    exact ⟨_, (Operation.onHits_terms sorter field size direction w hits).trans
      (by rw [Sorter.sorted_of_some hsorted]; rfl)⟩
  | groupedStats keyField valueField order size =>
    obtain ⟨sorted, hsorted⟩ := hsorts _ _ rfl
    exact ⟨_, (Operation.onHits_groupedStats sorter keyField valueField order size w hits).trans
      (by rw [Sorter.sorted_of_some hsorted]; rfl)⟩
  | histogram interval =>
    obtain ⟨found, hfound⟩ := hgroups interval
    exact ⟨_, (Operation.onHits_histogram sorter interval w hits).trans (by rw [hfound]; rfl)⟩
  | fieldHistogram field interval full =>
    obtain ⟨found, hfound⟩ := hgroups interval
    exact ⟨_, (Operation.onHits_fieldHistogram sorter field interval full w hits).trans
      (by rw [hfound]; rfl)⟩
  | fieldStats field => exact ⟨_, Operation.onHits_fieldStats sorter field w hits⟩

/-- An operation has none if there is no end to the sorting. -/
theorem onHits_eq_unsorted (call : SearchCall) (w : Window) (h : ¬call.Sorts sorter hits) :
    call.operation.onHits sorter w hits = .error .unsorted := by
  cases call with
  | terms field size direction =>
    have hnone := Sorter.sorted_of_none (sort?_eq_none rfl h)
    exact (Operation.onHits_terms sorter field size direction w hits).trans (by rw [hnone]; rfl)
  | groupedStats keyField valueField order size =>
    have hnone := Sorter.sorted_of_none (sort?_eq_none rfl h)
    exact (Operation.onHits_groupedStats sorter keyField valueField order size w hits).trans
      (by rw [hnone]; rfl)
  | count => exact absurd (sorts_of_none rfl) h
  | histogram interval => exact absurd (sorts_of_none rfl) h
  | fieldHistogram field interval full => exact absurd (sorts_of_none rfl) h
  | fieldStats field => exact absurd (sorts_of_none rfl) h

end SearchCall

/-! ## Searches -/

/-- Behind a result stand an answer and what was read from it. -/
theorem SearchPlan.finish_eq_ok {α : Type} {plan : SearchPlan} {operation : Operation α}
    {answer : Except BackendError (Option SearchResponse)} {reported : Reported α}
    (h : plan.finish operation answer = .ok reported) :
    ∃ response, answer = .ok response
      ∧ operation.read plan.window response = .ok reported.result := by
  cases answer with
  | error e => cases h
  | ok response =>
    refine ⟨response, rfl, ?_⟩
    rw [finish, report] at h
    split at h
    · cases h
    · next result hread =>
      obtain rfl := Except.ok.inj h
      exact hread

namespace Searcher

variable {searcher : Searcher} {scope : SearchScope} {now : Instant} {w : Window}
  {names : List String}

/-- The indices of a scope are known if the ranges of the window are, and the stream if the filter
names one. -/
theorem exists_indices
    (hranges : scope.indices = .resolve → ∃ found, searcher.resolver.ranges w = .ok found)
    (hstream : scope.indices = .resolve → ∀ id ∈ scope.filter.bind markedStream?,
      ∃ stream, searcher.resolver.streams id = .ok stream) :
    ∃ names, searcher.indices scope w = .ok names := by
  cases hindices : scope.indices with
  | pattern text => exact ⟨_, by rw [indices, hindices]⟩
  | resolve =>
    obtain ⟨found, hfound⟩ := hranges hindices
    have hresolved : ∃ ranges, searcher.resolver.rangesOf w scope.filter = .ok ranges := by
      rw [Resolver.rangesOf, hfound]
      cases hmarker : scope.filter.bind markedStream? with
      | none => exact ⟨_, rfl⟩
      | some id =>
        obtain ⟨stream, hknown⟩ := hstream hindices id hmarker
        exact ⟨orderRanges (found.filter fun range => stream.indexSet.manages range.name),
          by simp only [hknown]⟩
    obtain ⟨ranges, hresolved⟩ := hresolved
    exact ⟨ranges.map IndexRange.name, by simp only [indices, hindices, hresolved]; rfl⟩

/-- If there is a result, every request was answered, and the result was read from the answer. -/
theorem answered_of_run_eq_ok {α : Type} {operation : Operation α} {backend : SearchBackend}
    {reported : Reported α} (hw : searcher.resolver.window now scope.range = .ok w)
    (hn : searcher.indices scope w = .ok names)
    (h : (searcher.run backend now scope operation).result = .ok reported) :
    ∀ request ∈ (searcher.run backend now scope operation).trace.requests,
      ∃ response, backend request = .ok response
        ∧ operation.read w (some response) = .ok reported.result := by
  rw [run_eq_of_indices hw hn] at h ⊢
  intro request hrequest
  cases names with
  | nil => cases hrequest
  | cons name names =>
    obtain rfl := List.mem_singleton.mp hrequest
    obtain ⟨answer, hanswer, hread⟩ := SearchPlan.finish_eq_ok h
    change (backend _).map some = .ok answer at hanswer
    cases hresponse : backend ⟨name :: names, searcher.body scope w operation.aggregations⟩ with
    | error e =>
      rw [hresponse] at hanswer
      cases hanswer
    | ok response =>
      rw [hresponse] at hanswer
      obtain rfl := Except.ok.inj hanswer
      exact ⟨response, rfl, hread⟩

/-- **Which searches of a store have a result.** If the range of the scope is in order, its texts are
queries, the ranges of the window are known, and so is the stream if the filter names one, there is a
result exactly if there is an end to the sorting of the buckets of the hits, and the store has then
answered whatever it was asked, and the operation has read the answer. Every sorter comes to an end
exactly where the buckets have an order, and they have one if their keys agree. The documents lie at
least seven days after the beginning of the calendar, and may hold anything else. -/
theorem exists_run_call (searcher : Searcher) (store : Store) (now : Instant) (scope : SearchScope)
    (call : SearchCall) (start stop : Instant) (q f : Clause)
    (hrange : scope.range = .absolute start stop) (hle : start ≤ stop)
    (hquery : Query.parse scope.query = .ok q)
    (hfilter : Query.parse (scope.filter.getD "*") = .ok f)
    (hranges : scope.indices = .resolve →
      ∃ found, searcher.resolver.ranges ⟨start, stop⟩ = .ok found)
    (hstream : scope.indices = .resolve → ∀ id ∈ scope.filter.bind markedStream?,
      ∃ stream, searcher.resolver.streams id = .ok stream)
    (hdocuments : ∀ index, ∀ document ∈ store.documents index,
      minDay + 7 ≤ document.timestamp.day) :
    let outcome := searcher.run store.backend now scope call.operation
    ∃ names, searcher.indices scope ⟨start, stop⟩ = .ok names
      ∧ (let hits := store.hits names (q.selects f (⟨start, stop⟩ : Window).wholeMillis)
        (call.Sorts store.sorter hits →
          (∃ reported, outcome.result = .ok reported)
          ∧ ∀ request ∈ outcome.trace.requests, ∃ response, store.backend request = .ok response
            ∧ ∃ result, call.operation.read ⟨start, stop⟩ (some response) = .ok result)
        ∧ (¬call.Sorts store.sorter hits → outcome.result = .error (.backend .unsorted))
        ∧ ((∀ sorter, call.Sorts sorter hits) ↔ call.Ordered hits)
        ∧ (call.Agrees hits → call.Ordered hits)) := by
  intro outcome
  have hw := window_of_le searcher now hrange hle
  obtain ⟨names, hn⟩ := exists_indices hranges hstream
  refine ⟨names, hn, ?_⟩
  intro hits
  -- a week before a hit the calendar has begun, so each hit lies in a bucket
  have hplaced : ∀ document ∈ hits,
      ∀ interval : Interval, (interval.truncate? document.timestamp).isSome := by
    intro document hdocument interval
    obtain ⟨⟨index, hindex⟩, _⟩ := Store.of_mem_hits hdocument
    have hday := hdocuments index document hindex
    exact truncate?_isSome fun _ => by omega
  have hrun : outcome.result = _ :=
    run_eq_onHits scope hw hn hquery hfilter (call.read_none store.sorter ⟨start, stop⟩)
  refine ⟨fun hsorts => ?_, fun hsorts => ?_, SearchCall.forall_sorts_iff, SearchCall.Agrees.ordered⟩
  · obtain ⟨result, hresult⟩ := call.exists_onHits ⟨start, stop⟩ hplaced hsorts
    rw [hresult] at hrun
    refine ⟨⟨_, hrun⟩, fun request hrequest => ?_⟩
    obtain ⟨response, hresponse, hread⟩ := answered_of_run_eq_ok hw hn hrun request hrequest
    exact ⟨response, hresponse, _, hread⟩
  · rw [hrun, call.onHits_eq_unsorted ⟨start, stop⟩ hsorts]

/-- Statistics by value over texts, numbers, lists and objects, in the indices of a stream. -/
theorem exists_run_call_mixed :
    let store : Store := ⟨[("a_0",
      [⟨.epoch, [("key", .arr [.str "x", .int 1, .null, .obj [("inner", .arr [])]]),
        ("value", .obj [("deep", .arr [.int 2, .str "2"])])]⟩,
       ⟨.epoch, [("key", .bool true), ("value.deep", .int (-3))]⟩])], [], .insertion 20⟩
    let table : RangeTable := ⟨[.latest "a_0" .epoch]⟩
    let searcher : Searcher := ⟨⟨table.lookup, lookupStream [⟨"ab", "", ⟨"a"⟩⟩],
      fun _ _ => .error .calendarEnd⟩, true⟩
    let scope : SearchScope := ⟨"*", some "key:x OR streams:ab", .absolute .epoch .epoch, .resolve⟩
    ∃ reported, (searcher.run store.backend .epoch scope
      (SearchCall.groupedStats "key" "value.deep" ⟨.mean, .desc⟩ 1).operation).result
        = .ok reported := by
  intro store table searcher scope
  have hquery : Query.parse "*" = .ok (.term .all) := rfl
  have hfilter : Query.parse "key:x OR streams:ab"
      = .ok (.or [.term (.field "key" "x"), .term (.field "streams" "ab")]) := by cbv
  have hmarker : markedStream? "key:x OR streams:ab" = some "ab" := by cbv
  have hstream : searcher.resolver.streams "ab" = .ok ⟨"ab", "", ⟨"a"⟩⟩ := by cbv
  have hindices : searcher.indices scope ⟨.epoch, .epoch⟩ = .ok ["a_0"] := by cbv
  obtain ⟨names, hnames, hsorted, -, hsorts, hagrees⟩ := exists_run_call searcher store .epoch scope
    (.groupedStats "key" "value.deep" ⟨.mean, .desc⟩ 1) .epoch .epoch _ _ rfl (by decide) hquery
    hfilter (fun _ => ⟨_, rfl⟩)
    (by
      intro _ id hid
      obtain rfl := Option.some.inj (hmarker.symm.trans hid)
      exact ⟨_, hstream⟩)
    (by
      intro index document hdocument
      have hmem := Store.mem_of_mem_documents_single hdocument
      simp only [List.mem_cons, List.not_mem_nil, or_false] at hmem
      rcases hmem with rfl | rfl <;> decide)
  obtain rfl := Except.ok.inj (hindices.symm.trans hnames)
  refine (hsorted (hsorts.mpr (hagrees ?_) _)).1
  -- among the keys of the hit is one number only
  intro orders buckets hsorting
  obtain ⟨rfl, rfl⟩ := Prod.mk.inj (Option.some.inj hsorting)
  have hhits : store.hits ["a_0"] ((Clause.term .all).selects
      (.or [.term (.field "key" "x"), .term (.field "streams" "ab")])
      (⟨.epoch, .epoch⟩ : Window).wholeMillis) = (store.documents "a_0").take 1 := by cbv
  rw [hhits]
  unfold TermBucket.Agree
  decide +kernel

/-- A search for the most frequent of five numbers and sixteen texts that lie between them has no
result. -/
theorem exists_run_call_fails :
    let searcher : Searcher :=
      ⟨⟨(⟨[]⟩ : RangeTable).lookup, lookupStream [], fun _ _ => .error .calendarEnd⟩, true⟩
    let scope : SearchScope := ⟨"*", none, .absolute .epoch .epoch, .pattern "a_0"⟩
    Query.parse scope.query = .ok (.term .all)
      ∧ (∀ document ∈ crossed, minDay + 7 ≤ document.timestamp.day)
      ∧ (searcher.run Store.crossed.backend .epoch scope
        (SearchCall.terms "n" 21 .desc).operation).result = .error (.backend .unsorted) := by
  intro searcher scope
  have hquery : Query.parse "*" = .ok (.term .all) := rfl
  refine ⟨hquery, fun document hdocument => ?_, run_terms_crossed searcher 21⟩
  obtain ⟨value, _, rfl⟩ := List.mem_map.mp hdocument
  show minDay + 7 ≤ Instant.epoch.day
  decide

end Searcher

end LogSearch
