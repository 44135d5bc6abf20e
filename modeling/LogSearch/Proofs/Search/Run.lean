import LogSearch.Proofs.Search.View
import LogSearch.Proofs.Store.Histogram
import LogSearch.Proofs.Store.Select
import LogSearch.Proofs.Store.Target
import LogSearch.Search.Dispatch

/-!
# Searches of a store

A store answers for the documents that a search finds, its *hits*, so for a scope whose texts are
queries the result of an operation is what it makes of the hits over the names that are searched
(`run_eq_onHits`). This also holds if there are no names and the store is not asked at all, for
operations that then give the result of no hits.

What the single operations make of hits is computed from the result of each aggregation and how
it is read: the count is the number of hits (`run_count`), and the histogram says how many of them
lie in each bucket (`run_histogram`).
-/

namespace LogSearch

/-- A store that answers requests. -/
def Store.backend (store : Store) : SearchBackend := fun request =>
  store.search request.indices request.body

/-! ## Answers -/

namespace Store

variable {query : Json}

theorem conditionOf_body (query : Json) (aggregations : Option (List (String × Json))) :
    conditionOf (Query.body query aggregations) = .ofJson query := by
  cases aggregations <;> rfl

theorem aggregationsOf_body (query : Json) (fields : List (String × Json)) :
    aggregationsOf (Query.body query (some fields)) = some (Aggregation.ofFields fields) := by
  rw [aggregationsOf, Query.body]
  rfl

/-- The answer for hits, with what is to be computed from them. -/
def answer (sorter : Sorter) (hits : List Document) :
    Option (List (String × Json)) → Except BackendError SearchResponse
  | none => .ok (respond hits none)
  | some fields =>
    (Aggregation.runInto sorter [] hits (Aggregation.ofFields fields)).map fun results =>
      respond hits (some (.obj results))

/-- The store takes no time, whatever it answers. -/
theorem tookMillis_of_answer {sorter : Sorter} {hits : List Document}
    {aggregations : Option (List (String × Json))} {response : SearchResponse}
    (h : answer sorter hits aggregations = .ok response) :
    response.tookMillis = 0 := by
  cases aggregations with
  | none =>
    obtain rfl := Except.ok.inj h
    rfl
  | some fields =>
    rw [answer] at h
    cases hrun : Aggregation.runInto sorter [] hits (Aggregation.ofFields fields) with
    | error e =>
      rw [hrun] at h
      cases h
    | ok results =>
      rw [hrun] at h
      obtain rfl := Except.ok.inj h
      rfl

/-- What is selected is what a search is answered for. -/
theorem search_of_select {store : Store} {names : List String} {hits : List Document}
    (h : select (.ofJson query) (store.searched names) = .ok hits)
    (aggregations : Option (List (String × Json))) :
    store.search names (Query.body query aggregations)
      = answer store.sorter hits aggregations := by
  rw [search, conditionOf_body, h]
  cases aggregations with
  | none => rfl
  | some fields =>
    rw [aggregationsOf_body, answer]
    cases hrun : Aggregation.runInto store.sorter [] hits (Aggregation.ofFields fields) <;>
      simp only [hrun] <;> rfl

/-- **A search whose condition has no faults is answered for its hits.** -/
theorem search_body (store : Store) (names : List String) {p : Document → Bool}
    (h : ∀ document, (Condition.ofJson query).holds document = .ok (p document))
    (aggregations : Option (List (String × Json))) :
    store.search names (Query.body query aggregations)
      = answer store.sorter (store.hits names p) aggregations :=
  search_of_select (select_eq_filter h _) aggregations

end Store

/-- What an operation makes of hits, in which a store sorts the buckets. -/
def Operation.onHits {α : Type} (operation : Operation α) (sorter : Sorter) (w : Window)
    (hits : List Document) : Except BackendError α :=
  (Store.answer sorter hits operation.aggregations).bind fun response =>
    operation.read w (some response)

/-! ## Runs -/

namespace Searcher

variable {searcher : Searcher} {store : Store} {now : Instant} {w : Window} {names : List String}
  {q f : Clause}

/-- The window between two instants in order. -/
theorem window_of_le {scope : SearchScope} {start stop : Instant} (searcher : Searcher)
    (now : Instant) (hrange : scope.range = .absolute start stop) (hle : start ≤ stop) :
    searcher.resolver.window now scope.range = .ok ⟨start, stop⟩ := by
  rw [hrange]
  exact if_pos hle

/-- There is no window between instants that are not in order. -/
theorem window_of_not_le {scope : SearchScope} {start stop : Instant} (searcher : Searcher)
    (now : Instant) (hrange : scope.range = .absolute start stop) (hle : ¬start ≤ stop) :
    searcher.resolver.window now scope.range = .error (.invalidBounds start stop) := by
  rw [hrange]
  exact if_neg hle

/-- Without a window nothing is asked. -/
theorem run_eq_of_no_window {α : Type} {e : TimeRangeError} {scope : SearchScope}
    (hw : searcher.resolver.window now scope.range = .error e) (backend : SearchBackend)
    (operation : Operation α) :
    searcher.run backend now scope operation = ⟨⟨none, [], []⟩, .error (.timeRange e)⟩ := by
  have hplan : searcher.plan now scope operation.aggregations = .error ⟨none, .timeRange e⟩ := by
    simp only [plan, hw]
  rw [run, hplan]
  rfl

/-- Without indices nothing is sent. -/
theorem run_eq_of_indices_error {α : Type} {e : ResolveError} {scope : SearchScope}
    (hw : searcher.resolver.window now scope.range = .ok w)
    (hn : searcher.indices scope w = .error e) (backend : SearchBackend)
    (operation : Operation α) :
    searcher.run backend now scope operation
      = ⟨⟨some w, scope.lookups w, []⟩, .error (.ofResolve e)⟩ := by
  have hplan : searcher.plan now scope operation.aggregations
      = .error ⟨some w, .ofResolve e⟩ := by
    simp only [plan, hw, hn]
  rw [run, hplan]
  rfl

/-- With a window and indices all is planned. -/
theorem run_eq_of_indices {α : Type} {scope : SearchScope}
    (hw : searcher.resolver.window now scope.range = .ok w)
    (hn : searcher.indices scope w = .ok names) (backend : SearchBackend)
    (operation : Operation α) :
    let plan : SearchPlan := ⟨w, names, searcher.body scope w operation.aggregations⟩
    searcher.run backend now scope operation
      = ⟨⟨some w, scope.lookups w, (plan.send backend).1⟩,
          plan.finish operation (plan.send backend).2⟩ := by
  intro plan
  have hplan : searcher.plan now scope operation.aggregations = .ok plan := by
    simp only [Searcher.plan, hw, hn, plan]
  rw [run, hplan]

/-- **What is done within a window**: the ranges of the window are looked up if the scope names no
indices, and one request is sent if there are indices. -/
theorem trace_of_window {α : Type} {scope : SearchScope}
    (hw : searcher.resolver.window now scope.range = .ok w) (backend : SearchBackend)
    (operation : Operation α) :
    (searcher.run backend now scope operation).trace
      = ⟨some w, scope.lookups w,
          match searcher.indices scope w with
          | .error _ => []
          | .ok [] => []
          | .ok names => [⟨names, searcher.body scope w operation.aggregations⟩]⟩ := by
  cases hn : searcher.indices scope w with
  | error e => rw [run_eq_of_indices_error hw hn]
  | ok names =>
    rw [run_eq_of_indices hw hn]
    cases names <;> rfl

/-- Without a window there is no result. -/
theorem run_of_no_window {α : Type} {e : TimeRangeError} (scope : SearchScope)
    (hw : searcher.resolver.window now scope.range = .error e) (backend : SearchBackend)
    (operation : Operation α) :
    (searcher.run backend now scope operation).result = .error (.timeRange e) := by
  rw [run_eq_of_no_window hw]

/-- The result of an operation once the window and the names are known. -/
theorem run_of_indices {α : Type} (scope : SearchScope)
    (hw : searcher.resolver.window now scope.range = .ok w)
    (hn : searcher.indices scope w = .ok names) (backend : SearchBackend)
    (operation : Operation α) :
    (searcher.run backend now scope operation).result
      = SearchPlan.finish ⟨w, names, searcher.body scope w operation.aggregations⟩ operation
          (if names.isEmpty then .ok none
            else (backend ⟨names, searcher.body scope w operation.aggregations⟩).map some) := by
  rw [run_eq_of_indices hw hn]
  simp only [SearchPlan.send, SearchPlan.asks]
  cases names <;> rfl

/-- The result of an operation is what it makes of the hits that a store answers for, if without
names there are none and it gives what it makes of none. -/
theorem run_of_answer {α : Type} (scope : SearchScope)
    (hw : searcher.resolver.window now scope.range = .ok w)
    (hn : searcher.indices scope w = .ok names) {operation : Operation α} {hits : List Document}
    (hanswer : store.search names (searcher.body scope w operation.aggregations)
      = Store.answer store.sorter hits operation.aggregations)
    (hempty : names = [] → hits = [])
    (hnone : operation.read w none = operation.onHits store.sorter w []) :
    (searcher.run store.backend now scope operation).result
      = match operation.onHits store.sorter w hits with
        | .error e => .error (.backend e)
        | .ok result => .ok
          { result, tookMillis := 0
            builtQuery := (searcher.body scope w operation.aggregations).render } := by
  rw [run_of_indices scope hw hn]
  cases names with
  | nil =>
    rw [hempty rfl, ← hnone, List.isEmpty_nil, if_pos rfl]
    simp only [SearchPlan.finish, SearchPlan.report]
    cases operation.read w none <;> rfl
  | cons name names =>
    rw [List.isEmpty_cons, if_neg (by decide), Store.backend, hanswer, Operation.onHits]
    cases hresponse : Store.answer store.sorter hits operation.aggregations with
    | error e => rfl
    | ok response =>
      have htook := Store.tookMillis_of_answer hresponse
      cases hread : operation.read w (some response) with
      | error e => simp only [Except.map, Except.bind, SearchPlan.finish, SearchPlan.report, hread]
      | ok result =>
        simp only [Except.map, Except.bind, SearchPlan.finish, SearchPlan.report, hread,
          Option.map_some, Option.getD_some, htook]

/-- **The result of an operation is what it makes of the hits**, if without names it gives what it
makes of none. -/
theorem run_eq_onHits {α : Type} (scope : SearchScope)
    (hw : searcher.resolver.window now scope.range = .ok w)
    (hn : searcher.indices scope w = .ok names) (hq : Query.parse scope.query = .ok q)
    (hf : Query.parse (scope.filter.getD "*") = .ok f) {operation : Operation α}
    (hnone : operation.read w none = operation.onHits store.sorter w []) :
    (searcher.run store.backend now scope operation).result
      = match operation.onHits store.sorter w (store.hits names (q.selects f w.wholeMillis)) with
        | .error e => .error (.backend e)
        | .ok result => .ok
          { result, tookMillis := 0
            builtQuery := (searcher.body scope w operation.aggregations).render } := by
  have hanswer := store.search_body names
    (Condition.holds_filtered hq hf w searcher.leadingWildcard) operation.aggregations
  refine run_of_answer scope hw hn hanswer ?_ hnone
  rintro rfl
  rfl

/-! ### Plans -/

variable {scope : SearchScope} {plan : SearchPlan} {failure : PlanFailure} {α : Type}

/-- A search that cannot be planned fails, whatever it is for. -/
theorem run_of_plan_error (h : searcher.plan now scope none = .error failure)
    (backend : SearchBackend) (operation : Operation α) :
    (searcher.run backend now scope operation).result = .error failure.error := by
  have hplan : searcher.plan now scope operation.aggregations = .error failure := by
    rw [← h]
    unfold Searcher.plan
    cases hw : searcher.resolver.window now scope.range with
    | error e => rfl
    | ok w =>
      cases hn : searcher.indices scope w with
      | error e => simp only [hn]
      | ok names =>
        simp only [Searcher.plan, hw, hn] at h
        cases h
  rw [run, hplan]

theorem plan_eq_ok (h : searcher.plan now scope none = .ok plan) :
    searcher.resolver.window now scope.range = .ok plan.window
      ∧ searcher.indices scope plan.window = .ok plan.request.indices := by
  unfold Searcher.plan at h
  split at h
  · cases h
  · next w hw =>
    split at h
    · cases h
    · next names hn =>
      obtain rfl := Except.ok.inj h
      exact ⟨hw, hn⟩

/-- The window between two instants, if they are in order. -/
theorem window_of_plan {start stop : Instant} (h : searcher.plan now scope none = .ok plan)
    (hrange : scope.range = .absolute start stop) : plan.window = ⟨start, stop⟩ := by
  have hw := (plan_eq_ok h).1
  rw [hrange] at hw
  change Window.ofBounds start stop = .ok plan.window at hw
  unfold Window.ofBounds at hw
  split at hw
  · exact (Except.ok.inj hw).symm
  · cases hw

/-- **What a planned search gives**, if the operation has a result for its hits. -/
theorem exists_run_eq_ok (store : Store) {operation : Operation α} {result : α}
    (h : searcher.plan now scope none = .ok plan) (hq : Query.parse scope.query = .ok q)
    (hf : Query.parse (scope.filter.getD "*") = .ok f)
    (hnone : operation.read plan.window none = operation.onHits store.sorter plan.window [])
    (hresult : operation.onHits store.sorter plan.window
      (store.hits plan.request.indices (q.selects f plan.window.wholeMillis)) = .ok result) :
    ∃ reported, (searcher.run store.backend now scope operation).result = .ok reported
      ∧ reported.result = result := by
  obtain ⟨hw, hn⟩ := plan_eq_ok h
  rw [run_eq_onHits scope hw hn hq hf hnone, hresult]
  exact ⟨_, rfl, rfl⟩

end Searcher

/-! ## Buckets of time -/

namespace Bucket

/-- An object with a key and a count is a bucket of the rest. -/
theorem ofJson?_obj {fields : List (String × Json)} {key : Json} {n : Nat}
    (hkey : Json.single? "key" fields = some (.given key))
    (hcount : Json.single? "doc_count" fields = some (.given (.nat n))) :
    ofJson? (.obj fields)
      = some ⟨key, n, fields.filter fun (name, _) => name != "key" && name != "doc_count"⟩ := by
  have hslots : (Json.obj fields).namedSlots ["key", "doc_count"]
      = some [.given key, .given (.nat n)] := by
    simp only [Json.namedSlots, List.mapM_cons, List.mapM_nil, hkey, hcount]
    rfl
  rw [ofJson?, hslots]
  simp only [Option.bind_eq_bind, Option.bind_some, Slot.required, Json.toNat?_nat]
  rfl

/-- Milliseconds since the epoch fit 64 bits. -/
theorem toInt64?_epochMillis (t : Instant) :
    (Json.int t.epochMillis).toInt64? = some t.epochMillis := by
  have hmin := t.day_ge
  have hmax := t.day_le
  have hsecond := t.second_lt
  have hnano := t.nano_lt
  simp only [minDay, maxDay, secondsPerDay, nanosPerSecond] at *
  -- the calendar has far fewer milliseconds
  have hfits : -0x8000000000000000 ≤ t.epochMillis ∧ t.epochMillis < 0x8000000000000000 := by
    simp only [Instant.epochMillis, Instant.epochSeconds, secondsPerDay]
    omega
  rw [Json.int, Json.toInt64?, JsonNumber.toInt64?, if_pos hfits]

/-- The bucket of a group, with what was computed in it. -/
def ofGroup (rest : Instant × List Document → List (String × Json))
    (group : Instant × List Document) : Bucket :=
  ⟨.int group.1.epochMillis, group.2.length, rest group⟩

theorem epochSeconds_ofGroup (rest : Instant × List Document → List (String × Json))
    (group : Instant × List Document) :
    (ofGroup rest group).epochSeconds = .ok (group.1.epochMillis / 1000) := by
  have hkey : keyMillis? (ofGroup rest group).key = some group.1.epochMillis := by
    simp only [keyMillis?, ofGroup, toInt64?_epochMillis]
  rw [epochSeconds, hkey]

end Bucket

section

variable {α : Type} {inner : List Document → List (String × Json)}
  {rest : Instant × List Document → List (String × Json)}
  {value : Bucket → Except BackendError α} {valueOf : List Document → α}

/-- A list of buckets is read as it was stated. -/
theorem HistogramView.ofJson?_bucketsJson
    (h : ∀ group, Bucket.ofJson? (Histogram.bucketJson inner group)
      = some (Bucket.ofGroup rest group)) (found : Histogram.Groups) :
    ofJson? (Histogram.bucketsJson inner found) = some ⟨found.map (Bucket.ofGroup rest)⟩ := by
  have hitems : (found.map (Histogram.bucketJson inner)).mapM Bucket.ofJson?
      = some (found.map (Bucket.ofGroup rest)) := by
    rw [List.mapM_map]
    exact mapM_eq_pure fun group _ => h group
  have hslots : (Histogram.bucketsJson inner found).slots ["buckets"]
      = some [.given (.arr (found.map (Histogram.bucketJson inner)))] := rfl
  rw [ofJson?, hslots]
  simp only [Option.bind_eq_bind, Option.bind_some, Slot.orElse, bucketsOfJson?, Json.toList?,
    hitems]
  rfl

namespace Operation

/-- Values of groups, by their start in seconds. -/
def bySecond (valueOf : List Document → α) (found : Histogram.Groups) : List (Int × α) :=
  found.map fun group => (group.1.epochMillis / 1000, valueOf group.2)

/-- What is read from the buckets of a response. -/
theorem bucketValues_respond
    (hbucket : ∀ group, Bucket.ofJson? (Histogram.bucketJson inner group)
      = some (Bucket.ofGroup rest group))
    (hvalue : ∀ group, value (Bucket.ofGroup rest group) = .ok (valueOf group.2))
    (hits : List Document) (found : Histogram.Groups) :
    bucketValues value
        (some (Store.respond hits (some (.obj [("histogram", Histogram.bucketsJson inner found)]))))
      = .ok (Keyed.ofList (bySecond valueOf found)) := by
  have hview : aggregationResult HistogramView.ofJson?
      (some (.obj [("histogram", Histogram.bucketsJson inner found)])) "histogram"
      = .ok ⟨found.map (Bucket.ofGroup rest)⟩ :=
    aggregationResult_eq_ok rfl (HistogramView.ofJson?_bucketsJson hbucket found)
  have hpairs : (found.map (Bucket.ofGroup rest)).mapM (fun bucket => do
        let x ← value bucket
        return (← bucket.epochSeconds, x)) = .ok (bySecond valueOf found) := by
    rw [List.mapM_map]
    refine mapM_eq_ok fun group _ => ?_
    simp only [Function.comp_apply, hvalue, Bucket.epochSeconds_ofGroup]
    rfl
  simp only [bucketValues, Store.respond, hview, ok_bind] at hpairs ⊢
  rw [hpairs]
  rfl

/-- **What an operation that groups by time makes of hits**, if the aggregations inside have no
faults. -/
theorem onHits_buckets {sorter : Sorter} {fields : Option (List (String × Json))}
    {aggregations : List (String × Aggregation)} {interval : Interval}
    (inner : List Document → List (String × Json))
    (rest : Instant × List Document → List (String × Json))
    (hrequest : Aggregation.ofFields [("histogram", Query.histogram interval fields)]
      = [("histogram", .histogram "timestamp" interval 1 aggregations)])
    (hrun : Aggregation.Gives sorter aggregations inner)
    (hbucket : ∀ group, Bucket.ofJson? (Histogram.bucketJson inner group)
      = some (Bucket.ofGroup rest group))
    (hvalue : ∀ group, value (Bucket.ofGroup rest group) = .ok (valueOf group.2))
    (w : Window) (hits : List Document) :
    (⟨some [("histogram", Query.histogram interval fields)],
        fun w response => do return ⟨interval, w, ← bucketValues value response⟩⟩ :
        Operation (HistogramResult α)).onHits sorter w hits
      = (Histogram.groups "timestamp" interval hits).map fun found =>
          ⟨interval, w, Keyed.ofList (bySecond valueOf found)⟩ := by
  rw [onHits, Store.answer, hrequest, Aggregation.runInto, Histogram.run_histogram hrun]
  cases Histogram.groups "timestamp" interval hits with
  | error e => rfl
  | ok found =>
    let result (buckets : List (Int × α)) : HistogramResult α := ⟨interval, w, buckets⟩
    exact congrArg (fun values => values.bind fun buckets => .ok (result buckets))
      (bucketValues_respond hbucket hvalue hits found)

end Operation

end

/-! ## Counts -/

namespace Operation

theorem onHits_count (sorter : Sorter) (w : Window) (hits : List Document) :
    Operation.count.onHits sorter w hits = .ok ⟨hits.length⟩ := rfl

theorem onHits_histogram (sorter : Sorter) (interval : Interval) (w : Window)
    (hits : List Document) :
    (Operation.histogram interval).onHits sorter w hits
      = (Histogram.groups "timestamp" interval hits).map fun found =>
          ⟨interval, w, Keyed.ofList (bySecond List.length found)⟩ :=
  onHits_buckets (fun _ => []) (fun group => [("key_as_string", .str group.1.renderMillis)])
    (by cases interval <;> rfl) (fun _ _ => rfl) (fun _ => Bucket.ofJson?_obj rfl rfl)
    (fun _ => rfl) w hits

/-- Without indices the result is that of no hits. -/
theorem read_histogram_none (sorter : Sorter) (interval : Interval) (w : Window) :
    (Operation.histogram interval).read w none
      = (Operation.histogram interval).onHits sorter w [] := by
  rw [onHits_histogram]
  rfl

end Operation

/-! ## Operations -/

namespace Searcher

variable {searcher : Searcher} {store : Store} {now : Instant} {w : Window} {names : List String}
  {q f : Clause}

/-- **The count of a search is the number of hits.** -/
theorem run_count (scope : SearchScope)
    (hw : searcher.resolver.window now scope.range = .ok w)
    (hn : searcher.indices scope w = .ok names) (hq : Query.parse scope.query = .ok q)
    (hf : Query.parse (scope.filter.getD "*") = .ok f) :
    (searcher.run store.backend now scope .count).result
      = .ok
        { result := ⟨(store.hits names (q.selects f w.wholeMillis)).length⟩
          tookMillis := 0
          builtQuery := (searcher.body scope w none).render } :=
  run_eq_onHits scope hw hn hq hf rfl

/-- **The histogram of a search says how many hits each bucket has.** -/
theorem run_histogram (scope : SearchScope)
    (hw : searcher.resolver.window now scope.range = .ok w)
    (hn : searcher.indices scope w = .ok names) (hq : Query.parse scope.query = .ok q)
    (hf : Query.parse (scope.filter.getD "*") = .ok f) (interval : Interval) :
    (searcher.run store.backend now scope (.histogram interval)).result
      = match (Histogram.groups "timestamp" interval
            (store.hits names (q.selects f w.wholeMillis))).map Histogram.tally with
        | .error e => .error (.backend e)
        | .ok entries => .ok
          { result :=
              ⟨interval, w, Keyed.ofList (entries.map fun entry => (entry.1.epochMillis / 1000,
                entry.2))⟩
            tookMillis := 0
            builtQuery := (searcher.body scope w
              (some [("histogram", Query.histogram interval none)])).render } := by
  rw [run_eq_onHits scope hw hn hq hf (Operation.read_histogram_none store.sorter interval w),
    Operation.onHits_histogram]
  cases Histogram.groups "timestamp" interval (store.hits names (q.selects f w.wholeMillis)) with
  | error e => rfl
  | ok found =>
    simp only [Except.map, Operation.bySecond, Histogram.tally, List.map_map]
    rfl

/-- The hits of a window have buckets, unless weeks begin before the calendar there. -/
theorem placed_of_mem_hits {interval : Interval}
    (hweek : interval = .week → minDay + 6 ≤ w.start.day) {document : Document}
    (h : document ∈ store.hits names (q.selects f w)) :
    Histogram.Placed "timestamp" interval document := by
  have hselects := (List.mem_filter.mp h).2
  simp only [Clause.selects, Bool.and_eq_true, Window.covers_iff] at hselects
  have hday := Instant.day_mono hselects.1.2.1
  exact Histogram.placed_timestamp (truncate?_isSome fun hi => Int.le_trans (hweek hi) hday)

/-- A histogram is given, unless weeks begin before the calendar. -/
theorem exists_run_histogram (scope : SearchScope)
    (hw : searcher.resolver.window now scope.range = .ok w)
    (hn : searcher.indices scope w = .ok names) (hq : Query.parse scope.query = .ok q)
    (hf : Query.parse (scope.filter.getD "*") = .ok f) {interval : Interval}
    (hweek : interval = .week → minDay + 6 ≤ w.start.day) :
    ∃ result, (searcher.run store.backend now scope (.histogram interval)).result = .ok result := by
  have hplaced : ∀ document ∈ store.hits names (q.selects f w.wholeMillis),
      Histogram.Placed "timestamp" interval document :=
    fun document h => placed_of_mem_hits (w := w.wholeMillis) hweek h
  obtain ⟨found, hfound, _⟩ := Histogram.groups_grouped hplaced
  rw [run_histogram scope hw hn hq hf, hfound]
  exact ⟨_, rfl⟩

end Searcher

end LogSearch
