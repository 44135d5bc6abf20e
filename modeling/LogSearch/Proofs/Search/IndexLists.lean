import LogSearch.Proofs.Search.Answers

/-!
# Lists of indices

How the indices of a search were chosen does not matter, only which they are. A search depends on
its window, its names and its body (`run_congr`), so one that names the indices which it would have
resolved gives the same result and sends the same request (`run_resolved_eq_listed`).

A search without indices is not sent anywhere. Its result is nevertheless the one that a store gives
for indices which do not exist (`run_eq_of_absent`).
-/

namespace LogSearch

/-- A store finds nothing under names that stand for no index. -/
theorem Store.search_absent {store : Store} {names : List String}
    (h : ∀ name ∈ names, store.hasIndex (store.resolveName name) = false) (query : Json)
    (aggregations : Option (List (String × Json))) :
    store.search names (Query.body query aggregations) = answer store.sorter [] aggregations :=
  search_of_select (by rw [searched_eq_nil h, select]) aggregations

namespace Searcher

variable {searcher other : Searcher} {scope listed : SearchScope} {now later : Instant} {w : Window}
  {names : List String} {α : Type}

/-- **A search depends on its window, its names and its body only.** -/
theorem run_congr (hw : searcher.resolver.window now scope.range = .ok w)
    (hw' : other.resolver.window later listed.range = .ok w)
    (hn : searcher.indices scope w = .ok names) (hn' : other.indices listed w = .ok names)
    {operation : Operation α}
    (hbody : searcher.body scope w operation.aggregations
      = other.body listed w operation.aggregations) (backend : SearchBackend) :
    (searcher.run backend now scope operation).result
        = (other.run backend later listed operation).result
      ∧ (searcher.run backend now scope operation).trace.requests
        = (other.run backend later listed operation).trace.requests := by
  rw [run_eq_of_indices hw hn, run_eq_of_indices hw' hn', hbody]
  exact ⟨rfl, rfl⟩

/-! ## Names that were resolved -/

/-- The names of a range of time are those of its window. -/
theorem indices_of_affectedIndices {asked : Instant}
    (h : searcher.affectedIndices asked scope.range scope.filter = .ok names) :
    ∃ w, searcher.resolver.window asked scope.range = .ok w
      ∧ searcher.indices { scope with indices := .resolve } w = .ok names := by
  rw [affectedIndices, affectedRanges, Resolver.resolve] at h
  cases hw : searcher.resolver.window asked scope.range with
  | error e =>
    rw [hw] at h
    cases h
  | ok w =>
    rw [hw] at h
    dsimp only at h
    cases hranges : searcher.resolver.rangesOf w scope.filter with
    | error e =>
      rw [hranges] at h
      cases h
    | ok ranges =>
      rw [hranges] at h
      obtain rfl := Except.ok.inj h
      refine ⟨w, rfl, ?_⟩
      simp only [indices, hranges]
      rfl

/-- **A search that names the indices which it would have resolved is the same search**: the same
result or error, whatever the backend answers, and the same request. The names are plain, and they
may have been asked for at any time, for the ends of the range are given. -/
theorem run_resolved_eq_listed (searcher : Searcher) (backend : SearchBackend)
    (operation : Operation α) (asked now later : Instant) (scope : SearchScope)
    (start stop : Instant) (names : List String) (hrange : scope.range = .absolute start stop)
    (hnames : searcher.affectedIndices asked scope.range scope.filter = .ok names)
    (hplain : ∀ name ∈ names, PlainName name) :
    let resolved : SearchScope := { scope with indices := .resolve }
    let listed : SearchScope := { scope with indices := .pattern (",".intercalate names) }
    (searcher.run backend now resolved operation).result
        = (searcher.run backend later listed operation).result
      ∧ (searcher.run backend now resolved operation).trace.requests
        = (searcher.run backend later listed operation).trace.requests := by
  intro resolved listed
  obtain ⟨w, hw, hresolve⟩ := indices_of_affectedIndices hnames
  have hresolved : searcher.indices resolved w = .ok names := hresolve
  have hlisted : searcher.indices listed w = .ok names := indices_listed hplain searcher scope w
  -- the present instant has no part in a range with given ends
  have hany : ∀ instant, searcher.resolver.window instant scope.range = .ok w := by
    intro instant
    rw [hrange] at hw ⊢
    exact hw
  have hnow : searcher.resolver.window now resolved.range = .ok w := hany now
  have hlater : searcher.resolver.window later listed.range = .ok w := hany later
  exact run_congr hnow hlater hresolved hlisted rfl backend

/-- Two indices that are resolved, and a backend that fails unless it is asked for both. -/
theorem run_resolved_eq_listed_pair :
    let table : RangeTable := ⟨[.latest "b_0" .epoch, .latest "a_0" .epoch]⟩
    let searcher : Searcher :=
      ⟨⟨table.lookup, lookupStream [], fun _ _ => .error .calendarEnd⟩, true⟩
    let backend : SearchBackend := fun request =>
      if request.indices = ["a_0", "b_0"] then .ok .empty else .error (.malformed "other indices")
    let scope : SearchScope := ⟨"level:x", none, .absolute .epoch .epoch, .resolve⟩
    let listed : SearchScope := { scope with indices := .pattern "a_0,b_0" }
    (searcher.run backend .epoch scope Operation.count).result
      = (searcher.run backend .epoch listed Operation.count).result := by
  intro table searcher backend scope listed
  have hplain : ∀ name ∈ ["a_0", "b_0"], PlainName name := by
    intro name hname
    simp only [List.mem_cons, List.not_mem_nil, or_false] at hname
    rcases hname with rfl | rfl <;> exact ⟨by decide, by decide, by decide⟩
  exact (run_resolved_eq_listed searcher backend Operation.count .epoch .epoch .epoch scope .epoch
    .epoch ["a_0", "b_0"] rfl (by cbv) hplain).1

/-! ## Indices that do not exist -/

/-- Without indices nothing is sent, so any backend may stand in for another. -/
theorem run_eq_of_no_indices (hw : searcher.resolver.window now scope.range = .ok w)
    (hn : searcher.indices scope w = .ok []) (backend standIn : SearchBackend)
    (operation : Operation α) :
    searcher.run backend now scope operation = searcher.run standIn now scope operation := by
  rw [run_eq_of_indices hw hn, run_eq_of_indices hw hn]
  rfl

/-- What a store gives for indices that do not exist is what an operation makes of no hits. -/
theorem run_of_absent {store : Store} {call : SearchCall} {result : call.Result}
    (scope : SearchScope) (hw : searcher.resolver.window now scope.range = .ok w)
    (hn : searcher.indices scope w = .ok names)
    (habsent : ∀ name ∈ names, store.hasIndex (store.resolveName name) = false)
    (hresult : call.operation.onHits store.sorter w [] = .ok result) :
    (searcher.run store.backend now scope call.operation).result
      = .ok
        { result, tookMillis := 0
          builtQuery := (searcher.body scope w call.operation.aggregations).render } := by
  rw [run_of_answer scope hw hn (Store.search_absent habsent _ _) (fun _ => rfl)
    (call.read_none store.sorter w), hresult]

/-- **No index is like indices that do not exist.** An operation on a scope for which there is no
index sends nothing, and its result is the one that a store gives for the same scope with names that
stand for no index. If the range of the scope is in order there is a result. -/
theorem run_eq_of_absent (searcher other : Searcher) (backend : SearchBackend) (store : Store)
    (now later : Instant) (scope : SearchScope) (choice : IndexChoice) (call : SearchCall)
    (start stop : Instant) (names : List String)
    (hwildcard : searcher.leadingWildcard = other.leadingWildcard)
    (hrange : scope.range = .absolute start stop)
    (hempty : searcher.indices scope ⟨start, stop⟩ = .ok [])
    (hnames : other.indices { scope with indices := choice } ⟨start, stop⟩ = .ok names)
    (habsent : ∀ name ∈ names, store.hasIndex (store.resolveName name) = false) :
    let absent : SearchScope := { scope with indices := choice }
    (searcher.run backend now scope call.operation).result
        = (other.run store.backend later absent call.operation).result
      ∧ (searcher.run backend now scope call.operation).trace.requests = []
      ∧ (start ≤ stop →
        ∃ reported, (searcher.run backend now scope call.operation).result = .ok reported) := by
  intro absent
  by_cases hle : start ≤ stop
  · have hw := window_of_le searcher now hrange hle
    have hw' : other.resolver.window later absent.range = .ok ⟨start, stop⟩ :=
      window_of_le other later hrange hle
    have hbody : searcher.body scope ⟨start, stop⟩ call.operation.aggregations
        = other.body absent ⟨start, stop⟩ call.operation.aggregations := by
      rw [body, body, hwildcard]
    have hnone : ∀ name ∈ ([] : List String), store.hasIndex (store.resolveName name) = false :=
      fun name hname => by cases hname
    obtain ⟨result, hresult⟩ :
        ∃ result, call.operation.onHits store.sorter ⟨start, stop⟩ [] = .ok result :=
      call.exists_onHits ⟨start, stop⟩ (fun document hdocument => by cases hdocument)
        (call.sorts_nil store.sorter)
    have hleft := run_of_absent scope hw hempty hnone hresult
    have hright := run_of_absent absent hw' hnames habsent hresult
    rw [run_eq_of_no_indices hw hempty backend store.backend, hleft, hright, hbody]
    refine ⟨rfl, ?_, fun _ => ⟨_, rfl⟩⟩
    rw [run_eq_of_indices hw hempty]
    rfl
  · -- both fail for their range
    have hw := window_of_not_le searcher now hrange hle
    have hw' : other.resolver.window later absent.range = .error (.invalidBounds start stop) :=
      window_of_not_le other later hrange hle
    rw [run_eq_of_no_window hw, run_eq_of_no_window hw']
    exact ⟨rfl, rfl, fun h => absurd h hle⟩

/-- A table without ranges beside names of which a store has none; the query cannot be read. -/
theorem run_eq_of_absent_unreadable :
    let store : Store := ⟨[("a_0", [⟨.epoch, [("n", .int 1)]⟩])], [("a", "a_0")], .insertion 20⟩
    let searcher : Searcher :=
      ⟨⟨(⟨[]⟩ : RangeTable).lookup, lookupStream [], fun _ _ => .error .calendarEnd⟩, true⟩
    let scope : SearchScope := ⟨"(n", none, .absolute .epoch .epoch, .resolve⟩
    let absent : SearchScope := { scope with indices := .pattern "b_0, b" }
    let call : SearchCall := .fieldHistogram "n" .week true
    (searcher.run (fun _ => .error (.malformed "never asked")) .epoch scope call.operation).result
      = (searcher.run store.backend .epoch absent call.operation).result := by
  intro store searcher scope absent call
  have habsent : ∀ name ∈ ["b_0", "b"], store.hasIndex (store.resolveName name) = false := by
    decide
  exact (run_eq_of_absent searcher searcher _ store .epoch .epoch scope (.pattern "b_0, b") call
    .epoch .epoch ["b_0", "b"] rfl rfl (by cbv) (by cbv) habsent).1

end Searcher

end LogSearch
