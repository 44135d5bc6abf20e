import LogSearch.Proofs.Number.Exact
import LogSearch.Proofs.Search.Run
import LogSearch.Proofs.Stateful
import LogSearch.Search.Service

/-!
# What searches ask of services

Services may answer as they like, so what an operation does with their answers is compared with a
searcher that is *told* these answers: `Dispatcher.told` gives each answer to its question, and
knows nothing else. An operation has the result that the told searcher has, and asks exactly what
the told searcher looks up and sends (`perform_carryOut`). Whatever is known of searchers is
therefore known of dispatchers with any services. If services have no memory, the searcher need not
be told anything (`fst_carryOut`).

Main statement: the accounts of a whole run (`Dispatcher.run_accounts`). Every operation is
counted, also one that fails; every window is measured, and the window that is measured is the one
that is looked up and searched; and a request is sent once or not at all.
-/

namespace LogSearch

variable {σ ε α : Type}

/-! ## Calls -/

namespace SearchM

/-- A call is noted whether it fails or not. -/
theorem perform_call (service : StateM σ (Except ε α)) (note : Except ε α → ServiceCall)
    (wrap : ε → SearchError) (state : SearchState σ) :
    (call service note wrap).perform state
      = ((StateT.run service state.memory).1.mapError wrap,
          { state with
            calls := state.calls ++ [note (StateT.run service state.memory).1]
            memory := (StateT.run service state.memory).2 }) := by
  rw [call, Stateful.perform_bind, Stateful.perform_get]
  dsimp only
  obtain ⟨answer, memory⟩ := StateT.run service state.memory
  rw [Stateful.perform_bind, Stateful.perform_set]
  cases answer <;> rfl

end SearchM

/-! ## Measuring -/

namespace Metrics

/-- The metrics with a sample of a window, if there is one. -/
def sampled (metrics : Metrics) : Option Window → Metrics
  | none => metrics
  | some w => metrics.recordRange w.seconds

/-- The sum of the widths of windows in seconds; a negative width counts as none. -/
def totalWidth (windows : List Window) : Int := (windows.map fun w => max w.seconds 0).sum

/-- Widths are added up without rounding, as long as they stay below `2^53`. -/
theorem toRat?_sum_widths {windows : List Window} (hlt : totalWidth windows < 2 ^ 53) :
    (MetricFamily.sum (windows.map fun w => .ofInt (max w.seconds 0))).toRat?
      = some (totalWidth windows : ℚ) := by
  have hwidths : (windows.map fun w => max w.seconds 0)
      = (windows.map fun w => w.seconds.toNat).map Nat.cast := by
    rw [List.map_map]
    exact List.map_congr_left fun w _ => (Int.ofNat_toNat w.seconds).symm
  have hsamples : (windows.map fun w => Binary64.ofInt (max w.seconds 0))
      = (windows.map fun w => w.seconds.toNat).map Binary64.ofNat := by
    rw [List.map_map]
    exact List.map_congr_left fun w _ => by
      rw [← Int.ofNat_toNat, Binary64.ofInt_natCast, Function.comp_apply]
  have htotal : totalWidth windows = ((windows.map fun w => w.seconds.toNat).sum : Nat) := by
    rw [totalWidth, hwidths, Nat.cast_list_sum]
  have hnat : (windows.map fun w => w.seconds.toNat).sum < 2 ^ 53 := by omega
  rw [hsamples, MetricFamily.sum, Binary64.sum_ofNat hnat, Binary64.toRat?_ofNat hnat, htotal,
    Int.cast_natCast]

end Metrics

/-! ## What calls say -/

namespace ServiceCall

/-- The window that a call looks up. -/
def window? : ServiceCall → Option Window
  | .ranges w _ => some w
  | _ => none

/-- The request that a call sends. -/
def request? : ServiceCall → Option SearchRequest
  | .search request _ => some request
  | _ => none

/-- What a call says of the ranges of a window. -/
def ranges? (w : Window) : ServiceCall → Option (Except IndexRangeError (List IndexRange))
  | .ranges asked answer => if asked = w then some answer else none
  | _ => none

/-- What a call says of the stream with an id. -/
def stream? (id : String) : ServiceCall → Option (Except StreamError Stream)
  | .stream asked answer => if asked = id then some answer else none
  | _ => none

/-- What a call says in response to a request. -/
def response? : ServiceCall → Option (Except BackendError SearchResponse)
  | .search _ answer => some answer
  | _ => none

end ServiceCall

namespace Dispatcher

/-- A searcher that is told what services answered. -/
def told (dispatcher : Dispatcher σ) (calls : List ServiceCall) : Searcher where
  resolver :=
    { ranges := fun w => (calls.findSome? (ServiceCall.ranges? w)).getD (.error (.lookup ""))
      streams := fun id => (calls.findSome? (ServiceCall.stream? id)).getD (.error (.notFound id))
      readKeyword := dispatcher.readKeyword }
  leadingWildcard := dispatcher.leadingWildcard

/-- A backend that gives the response that was given. -/
def response (calls : List ServiceCall) : SearchBackend := fun _ =>
  (calls.findSome? ServiceCall.response?).getD (.error .unavailable)

theorem told_ranges (dispatcher : Dispatcher σ) (w : Window)
    (answer : Except IndexRangeError (List IndexRange)) (later : List ServiceCall) :
    (dispatcher.told (.ranges w answer :: later)).resolver.ranges w = answer := by
  simp [told, ServiceCall.ranges?]

theorem told_streams (dispatcher : Dispatcher σ) (w : Window)
    (found : Except IndexRangeError (List IndexRange)) (id : String)
    (answer : Except StreamError Stream) (later : List ServiceCall) :
    (dispatcher.told (.ranges w found :: .stream id answer :: later)).resolver.streams id
      = answer := by
  simp [told, List.findSome?_cons, ServiceCall.stream?]

/-- Calls that send nothing do not matter for the response. -/
theorem response_append {calls : List ServiceCall} (h : calls.filterMap ServiceCall.request? = [])
    (later : List ServiceCall) : response (calls ++ later) = response later := by
  have hnone : calls.findSome? ServiceCall.response? = none := by
    rw [List.findSome?_eq_none_iff]
    intro call hcall
    have hrequest := List.filterMap_eq_nil_iff.mp h call hcall
    cases call with
    | ranges w answer => rfl
    | stream id answer => rfl
    | search request answer => cases hrequest
  unfold response
  rw [List.findSome?_append, hnone]
  rfl

/-! ## Looking up indices -/

/-- What a look-up asks of the services, and that it comes to what a searcher makes of the answers,
whatever is asked later. -/
structure LooksUp (dispatcher : Dispatcher σ) (look : Searcher → Except ResolveError α)
    (windows : List Window) (calls : List ServiceCall) (found : Except ResolveError α) :
    Prop where
  windows : calls.filterMap ServiceCall.window? = windows
  requests : calls.filterMap ServiceCall.request? = []
  told : ∀ later, look (dispatcher.told (calls ++ later)) = found

theorem perform_rangesOf (dispatcher : Dispatcher σ) (w : Window) (filter : Option String)
    (state : SearchState σ) :
    ∃ calls memory found,
      dispatcher.LooksUp (fun searcher => searcher.resolver.rangesOf w filter) [w] calls found
      ∧ (dispatcher.rangesOf w filter).perform state
        = (found.mapError .ofResolve, { state with calls := state.calls ++ calls, memory }) := by
  rw [rangesOf, Stateful.perform_bind, SearchM.perform_call]
  obtain ⟨answer, memory⟩ := StateT.run (dispatcher.services.ranges w) state.memory
  cases answer with
  | error e =>
    refine ⟨[.ranges w (.error e)], memory, .error (.indexRange e), ⟨rfl, rfl, fun later => ?_⟩,
      rfl⟩
    simp only [Resolver.rangesOf, List.cons_append, told_ranges]
  | ok found =>
    dsimp only [Except.mapError]
    cases hmark : filter.bind markedStream? with
    | none =>
      refine ⟨[.ranges w (.ok found)], memory, .ok (orderRanges found),
        ⟨rfl, rfl, fun later => ?_⟩, rfl⟩
      simp only [Resolver.rangesOf, List.cons_append, told_ranges, hmark]
    | some id =>
      dsimp only
      rw [Stateful.perform_bind, SearchM.perform_call]
      obtain ⟨loaded, memory⟩ := StateT.run (dispatcher.services.streams id) memory
      cases loaded with
      | error e =>
        refine ⟨[.ranges w (.ok found), .stream id (.error e)], memory, .error (.stream e),
          ⟨rfl, rfl, fun later => ?_⟩, ?_⟩
        · simp only [Resolver.rangesOf, List.cons_append, told_ranges, hmark, told_streams]
        · simp [Except.mapError, SearchError.ofResolve]
      | ok stream =>
        refine ⟨[.ranges w (.ok found), .stream id (.ok stream)], memory,
          .ok (orderRanges (found.filter fun range => stream.indexSet.manages range.name)),
          ⟨rfl, rfl, fun later => ?_⟩, ?_⟩
        · simp only [Resolver.rangesOf, List.cons_append, told_ranges, hmark, told_streams]
        · simp [Except.mapError]

theorem perform_indices (dispatcher : Dispatcher σ) (scope : SearchScope) (w : Window)
    (state : SearchState σ) :
    ∃ calls memory names,
      dispatcher.LooksUp (fun searcher => searcher.indices scope w) (scope.lookups w) calls names
      ∧ (dispatcher.indices scope w).perform state
        = (names.mapError .ofResolve, { state with calls := state.calls ++ calls, memory }) := by
  unfold Dispatcher.indices SearchScope.lookups Searcher.indices
  cases scope.indices with
  | resolve =>
    obtain ⟨calls, memory, found, hlook, hperform⟩ :=
      dispatcher.perform_rangesOf w scope.filter state
    refine ⟨calls, memory, found.map (·.map IndexRange.name),
      ⟨hlook.windows, hlook.requests, fun later => ?_⟩, ?_⟩
    · dsimp only
      rw [hlook.told later]
    · dsimp only
      rw [Stateful.perform_bind, hperform]
      cases found <;> rfl
  | pattern names =>
    refine ⟨[], state.memory, .ok (namesOfPattern names), ⟨rfl, rfl, fun _ => rfl⟩, ?_⟩
    simp [Except.mapError]

/-! ## Sending requests -/

theorem perform_prepare_of_no_window {dispatcher : Dispatcher σ} {now : Instant}
    {scope : SearchScope} {e : TimeRangeError}
    (hw : scope.range.resolve dispatcher.readKeyword now = .error e)
    (aggregations : Option (List (String × Json))) (state : SearchState σ) :
    (dispatcher.prepare now scope aggregations).perform state = (.error (.timeRange e), state) := by
  rw [prepare, hw]
  rfl

/-- The window is measured before the indices are looked up. -/
theorem perform_prepare {dispatcher : Dispatcher σ} {now : Instant} {scope : SearchScope}
    {w : Window} (hw : scope.range.resolve dispatcher.readKeyword now = .ok w)
    (aggregations : Option (List (String × Json))) (state : SearchState σ) :
    ∃ calls memory names,
      dispatcher.LooksUp (fun searcher => searcher.indices scope w) (scope.lookups w) calls names
      ∧ (dispatcher.prepare now scope aggregations).perform state
        = ((names.map fun names => ⟨w, names, dispatcher.body scope w aggregations⟩).mapError
            .ofResolve,
          { metrics := state.metrics.recordRange w.seconds
            calls := state.calls ++ calls
            memory }) := by
  rw [prepare, hw]
  dsimp only
  rw [Stateful.perform_bind, SearchM.sample, Stateful.perform_modify]
  dsimp only
  rw [Stateful.perform_bind]
  obtain ⟨calls, memory, names, hlook, hperform⟩ := dispatcher.perform_indices scope w
    { state with metrics := state.metrics.recordRange w.seconds }
  refine ⟨calls, memory, names, hlook, ?_⟩
  rw [hperform]
  cases names <;> rfl

/-- What is sent for a plan is what a backend is sent that knows the response. -/
theorem perform_execute (dispatcher : Dispatcher σ) (plan : SearchPlan) (state : SearchState σ) :
    ∃ calls memory,
      calls.filterMap ServiceCall.window? = []
      ∧ calls.filterMap ServiceCall.request? = (plan.send (response calls)).1
      ∧ (dispatcher.execute plan).perform state
        = ((plan.send (response calls)).2.mapError .backend,
          { state with calls := state.calls ++ calls, memory }) := by
  unfold execute SearchPlan.send
  cases plan.asks with
  | false => exact ⟨[], state.memory, rfl, rfl, by simp [Except.mapError]⟩
  | true =>
    simp only [if_true]
    rw [Stateful.perform_bind, SearchM.perform_call]
    obtain ⟨answer, memory⟩ := StateT.run (dispatcher.services.backend plan.request) state.memory
    refine ⟨[.search plan.request answer], memory, rfl, rfl, ?_⟩
    cases answer <;> rfl

/-! ## Operations -/

/-- What the searcher does that is told what services answered. -/
def outcome (dispatcher : Dispatcher σ) (calls : List ServiceCall) (operation : Operation α)
    (scope : SearchScope) (now : Instant) : Outcome (Reported α) :=
  (dispatcher.told calls).run (response calls) now scope operation

theorem outcome_of_no_window {dispatcher : Dispatcher σ} {scope : SearchScope} {now : Instant}
    {e : TimeRangeError} (hw : scope.range.resolve dispatcher.readKeyword now = .error e)
    (calls : List ServiceCall) (operation : Operation α) :
    dispatcher.outcome calls operation scope now = ⟨⟨none, [], []⟩, .error (.timeRange e)⟩ := by
  have hwindow : (dispatcher.told calls).resolver.window now scope.range = .error e := hw
  exact Searcher.run_eq_of_no_window hwindow _ _

theorem outcome_of_indices_error {dispatcher : Dispatcher σ} {scope : SearchScope} {now : Instant}
    {w : Window} {windows : List Window} {calls : List ServiceCall} {e : ResolveError}
    (hw : scope.range.resolve dispatcher.readKeyword now = .ok w)
    (hlook : dispatcher.LooksUp (fun searcher => searcher.indices scope w) windows calls (.error e))
    (operation : Operation α) :
    dispatcher.outcome calls operation scope now
      = ⟨⟨some w, scope.lookups w, []⟩, .error (.ofResolve e)⟩ := by
  have hwindow : (dispatcher.told calls).resolver.window now scope.range = .ok w := hw
  have hnames := hlook.told []
  rw [List.append_nil] at hnames
  exact Searcher.run_eq_of_indices_error hwindow hnames _ _

theorem outcome_of_indices {dispatcher : Dispatcher σ} {scope : SearchScope} {now : Instant}
    {w : Window} {windows : List Window} {calls : List ServiceCall} {names : List String}
    (hw : scope.range.resolve dispatcher.readKeyword now = .ok w)
    (hlook : dispatcher.LooksUp (fun searcher => searcher.indices scope w) windows calls
      (.ok names))
    (sent : List ServiceCall) (operation : Operation α) :
    let plan : SearchPlan := ⟨w, names, dispatcher.body scope w operation.aggregations⟩
    dispatcher.outcome (calls ++ sent) operation scope now
      = ⟨⟨some w, scope.lookups w, (plan.send (response sent)).1⟩,
          plan.finish operation (plan.send (response sent)).2⟩ := by
  have hwindow : (dispatcher.told (calls ++ sent)).resolver.window now scope.range = .ok w := hw
  rw [outcome, response_append hlook.requests]
  exact Searcher.run_eq_of_indices hwindow (hlook.told sent) _ _

/-- What was noted agrees with what was done. -/
structure Noted (calls : List ServiceCall) (trace : SearchTrace) : Prop where
  windows : calls.filterMap ServiceCall.window? = trace.lookups
  requests : calls.filterMap ServiceCall.request? = trace.requests
  silent : trace.window = none → calls = []

/-- **An operation does what the searcher does that is told what services answered**, and is
counted however it ends. -/
theorem perform_carryOut (dispatcher : Dispatcher σ) (operation : Operation α)
    (scope : SearchScope) (now : Instant) (elapsed : Binary64) (state : SearchState σ) :
    ∃ calls memory,
      Noted calls (dispatcher.outcome calls operation scope now).trace
      ∧ (dispatcher.carryOut operation scope now elapsed).perform state
        = ((dispatcher.outcome calls operation scope now).result,
          { metrics := (state.metrics.sampled
              (dispatcher.outcome calls operation scope now).trace.window).recordRequest elapsed
            calls := state.calls ++ calls
            memory }) := by
  rw [carryOut, SearchM.timed, Stateful.perform_tryFinally, Stateful.perform_bind]
  cases hw : scope.range.resolve dispatcher.readKeyword now with
  | error e =>
    rw [perform_prepare_of_no_window hw]
    refine ⟨[], state.memory, ?_, ?_⟩
    · rw [outcome_of_no_window hw]
      exact ⟨rfl, rfl, fun _ => rfl⟩
    · rw [outcome_of_no_window hw, List.append_nil]
      rfl
  | ok w =>
    obtain ⟨looked, memory, names, hlook, hprepare⟩ :=
      perform_prepare hw operation.aggregations state
    rw [hprepare]
    cases names with
    | error e =>
      refine ⟨looked, memory, ?_, ?_⟩
      · rw [outcome_of_indices_error hw hlook]
        exact ⟨hlook.windows, hlook.requests, fun h => by cases h⟩
      · rw [outcome_of_indices_error hw hlook]
        rfl
    | ok names =>
      let plan : SearchPlan := ⟨w, names, dispatcher.body scope w operation.aggregations⟩
      obtain ⟨sent, memory, hwindows, hrequests, hexecute⟩ := dispatcher.perform_execute plan
        { metrics := state.metrics.recordRange w.seconds, calls := state.calls ++ looked, memory }
      refine ⟨looked ++ sent, memory, ?_, ?_⟩
      · rw [outcome_of_indices hw hlook]
        refine ⟨?_, ?_, fun h => by cases h⟩
        · rw [List.filterMap_append, hlook.windows, hwindows, List.append_nil]
        · rw [List.filterMap_append, hlook.requests, hrequests, List.nil_append]
      · rw [outcome_of_indices hw hlook]
        dsimp only [Except.map, Except.mapError]
        rw [Stateful.perform_bind, hexecute]
        cases (plan.send (response sent)).2 with
        | error e => simp [Except.mapError, SearchPlan.finish, Metrics.sampled]
        | ok response =>
          dsimp only [Except.mapError, SearchPlan.finish]
          cases plan.report operation response with
          | error e => simp [Metrics.sampled]
          | ok result => simp [Metrics.sampled]

/-! ## Services without a memory -/

/-- A dispatcher whose services answer as a searcher and a backend know. -/
def ofSearcher (searcher : Searcher) (backend : SearchBackend) : Dispatcher Unit where
  services :=
    { ranges := fun w => return searcher.resolver.ranges w
      streams := fun id => return searcher.resolver.streams id
      backend := fun request => return backend request }
  readKeyword := searcher.resolver.readKeyword
  leadingWildcard := searcher.leadingWildcard

variable {searcher : Searcher} {backend : SearchBackend}

theorem fst_rangesOf (w : Window) (filter : Option String) (state : SearchState Unit) :
    (((ofSearcher searcher backend).rangesOf w filter).perform state).1
      = (searcher.resolver.rangesOf w filter).mapError .ofResolve := by
  have hranges : StateT.run ((ofSearcher searcher backend).services.ranges w) state.memory
      = (searcher.resolver.ranges w, state.memory) := rfl
  rw [rangesOf, Stateful.perform_bind_fst, SearchM.perform_call, hranges, Resolver.rangesOf]
  cases searcher.resolver.ranges w with
  | error e => rfl
  | ok found =>
    dsimp only [Except.mapError, Except.bind]
    cases filter.bind markedStream? with
    | none => rfl
    | some id =>
      have hstreams (memory) : StateT.run ((ofSearcher searcher backend).services.streams id) memory
          = (searcher.resolver.streams id, memory) := rfl
      dsimp only
      rw [Stateful.perform_bind_fst, SearchM.perform_call, hstreams]
      cases searcher.resolver.streams id <;> rfl

theorem fst_indices (scope : SearchScope) (w : Window) (state : SearchState Unit) :
    (((ofSearcher searcher backend).indices scope w).perform state).1
      = (searcher.indices scope w).mapError .ofResolve := by
  unfold indices Searcher.indices
  cases scope.indices with
  | pattern names => rfl
  | resolve =>
    dsimp only
    rw [Stateful.perform_bind_fst, fst_rangesOf]
    cases searcher.resolver.rangesOf w scope.filter <;> rfl

theorem fst_prepare (now : Instant) (scope : SearchScope)
    (aggregations : Option (List (String × Json))) (state : SearchState Unit) :
    (((ofSearcher searcher backend).prepare now scope aggregations).perform state).1
      = (searcher.plan now scope aggregations).mapError PlanFailure.error := by
  have hwindow : scope.range.resolve (ofSearcher searcher backend).readKeyword now
      = searcher.resolver.window now scope.range := rfl
  rw [prepare, hwindow, Searcher.plan]
  cases searcher.resolver.window now scope.range with
  | error e => rfl
  | ok w =>
    dsimp only
    rw [Stateful.perform_bind_fst, SearchM.sample, Stateful.perform_modify]
    dsimp only [Except.bind]
    rw [Stateful.perform_bind_fst, fst_indices]
    cases searcher.indices scope w <;> rfl

theorem fst_execute (plan : SearchPlan) (state : SearchState Unit) :
    (((ofSearcher searcher backend).execute plan).perform state).1
      = (plan.send backend).2.mapError .backend := by
  unfold execute SearchPlan.send
  cases plan.asks with
  | false => rfl
  | true =>
    have hbackend : StateT.run ((ofSearcher searcher backend).services.backend plan.request)
        state.memory = (backend plan.request, state.memory) := rfl
    simp only [if_true]
    rw [Stateful.perform_bind_fst, SearchM.perform_call, hbackend]
    cases backend plan.request <;> rfl

/-- **With services that have no memory an operation has the result that the searcher has.** -/
theorem fst_carryOut (operation : Operation α) (scope : SearchScope) (now : Instant)
    (elapsed : Binary64) (state : SearchState Unit) :
    (((ofSearcher searcher backend).carryOut operation scope now elapsed).perform state).1
      = (searcher.run backend now scope operation).result := by
  rw [carryOut, SearchM.timed, Stateful.perform_tryFinally, Stateful.perform_bind_fst, fst_prepare,
    Searcher.run]
  cases searcher.plan now scope operation.aggregations with
  | error failure => rfl
  | ok plan =>
    dsimp only [Except.mapError, Except.bind]
    rw [Stateful.perform_bind_fst, fst_execute]
    cases (plan.send backend).2 with
    | error e => rfl
    | ok response =>
      dsimp only [Except.mapError, Except.bind, SearchPlan.finish]
      cases plan.report operation response <;> rfl

/-! ## Runs -/

/-- The window of a step, if its time range has one. -/
def window? (dispatcher : Dispatcher σ) (step : SearchStep) : Option Window :=
  (step.scope.range.resolve dispatcher.readKeyword step.now).toOption

/-- What a step asks of the services. Without a window it asks for nothing. Otherwise it looks up
the ranges of its window, once, unless the scope names indices. It sends a request for its window,
once, if there are indices by the answers that it got, and else none. -/
structure Accounts (dispatcher : Dispatcher σ) (step : SearchStep) (calls : List ServiceCall) :
    Prop where
  silent : dispatcher.window? step = none → calls = []
  lookups : ∀ w ∈ dispatcher.window? step,
    calls.filterMap ServiceCall.window? = step.scope.lookups w
  requests : ∀ w ∈ dispatcher.window? step,
    calls.filterMap ServiceCall.request?
      = match (dispatcher.told calls).indices step.scope w with
        | .error _ => []
        | .ok [] => []
        | .ok names =>
          [⟨names, Query.body
            (Query.filtered step.scope.query step.scope.filter (some w)
              dispatcher.leadingWildcard)
            step.call.operation.aggregations⟩]

/-- **A step keeps its accounts**, takes a sample of its window, and is counted. -/
theorem advance_accounts (dispatcher : Dispatcher σ) (state : SearchState σ) (step : SearchStep) :
    dispatcher.Accounts step (dispatcher.advance state step).2.calls
    ∧ (dispatcher.advance state step).2.metrics
      = (state.metrics.sampled (dispatcher.window? step)).recordRequest step.elapsed := by
  obtain ⟨calls, memory, hnoted, hperform⟩ := dispatcher.perform_carryOut step.call.operation
    step.scope step.now step.elapsed { state with calls := [] }
  rw [advance, answer, hperform]
  dsimp only
  rw [List.nil_append, window?]
  cases hw : step.scope.range.resolve dispatcher.readKeyword step.now with
  | error e =>
    rw [outcome_of_no_window hw] at hnoted ⊢
    refine ⟨⟨fun _ => hnoted.silent rfl, fun w h => ?_, fun w h => ?_⟩, rfl⟩
    · rw [window?, hw] at h
      cases h
    · rw [window?, hw] at h
      cases h
  | ok w =>
    have hwindow : (dispatcher.told calls).resolver.window step.now step.scope.range = .ok w :=
      hw
    have htrace := Searcher.trace_of_window hwindow (response calls) step.call.operation
    rw [outcome, htrace] at hnoted
    rw [outcome, htrace]
    have hsome : dispatcher.window? step = some w := by
      rw [window?, hw]
      rfl
    refine ⟨⟨fun h => ?_, fun v h => ?_, fun v h => ?_⟩, rfl⟩
    · rw [hsome] at h
      cases h
    · obtain rfl := Option.some.inj (hsome.symm.trans h)
      exact hnoted.windows
    · obtain rfl := Option.some.inj (hsome.symm.trans h)
      exact hnoted.requests

theorem run_cons (dispatcher : Dispatcher σ) (state : SearchState σ) (step : SearchStep)
    (steps : List SearchStep) :
    dispatcher.run state (step :: steps)
      = ((dispatcher.advance state step).2.calls
            :: (dispatcher.run (dispatcher.advance state step).2 steps).1,
          (dispatcher.run (dispatcher.advance state step).2 steps).2) := rfl

/-- What is measured in a run: every step, and the width of every window. -/
theorem metrics_run (dispatcher : Dispatcher σ) (state : SearchState σ) (steps : List SearchStep) :
    (dispatcher.run state steps).2.metrics
      = { requests := state.metrics.requests ++ steps.map SearchStep.elapsed
          ranges := state.metrics.ranges
            ++ (steps.filterMap dispatcher.window?).map fun w => .ofInt (max w.seconds 0) } := by
  induction steps generalizing state with
  | nil => simp [run]
  | cons step steps ih =>
    rw [run_cons, ih, (dispatcher.advance_accounts state step).2]
    cases hw : dispatcher.window? step with
    | none => simp [Metrics.sampled, Metrics.recordRequest, hw]
    | some w => simp [Metrics.sampled, Metrics.recordRequest, Metrics.recordRange, hw]

theorem forall₂_accounts (dispatcher : Dispatcher σ) (state : SearchState σ)
    (steps : List SearchStep) :
    List.Forall₂ dispatcher.Accounts steps (dispatcher.run state steps).1 := by
  induction steps generalizing state with
  | nil => exact .nil
  | cons step steps ih => exact .cons (dispatcher.advance_accounts state step).1 (ih _)

/-- **The accounts of a run.** With any services, every step is counted, and the widths of the
windows are measured and add up. Every step looks up the window that is measured, and sends a
request for it once or not at all. -/
theorem run_accounts (dispatcher : Dispatcher σ) (memory : σ) (steps : List SearchStep) :
    let windows := steps.filterMap dispatcher.window?
    let run := dispatcher.run ⟨.empty, [], memory⟩ steps
    run.2.metrics.requestCount = steps.length
    ∧ run.2.metrics.rangeCount = (steps.filter fun step => (dispatcher.window? step).isSome).length
    ∧ run.2.metrics.ranges = windows.map (fun w => .ofInt (max w.seconds 0))
    ∧ (Metrics.totalWidth windows < 2 ^ 53 →
        run.2.metrics.rangeSum.toRat? = some (Metrics.totalWidth windows : ℚ))
    ∧ List.Forall₂ dispatcher.Accounts steps run.1 := by
  intro windows run
  have hmetrics : run.2.metrics
      = { requests := steps.map SearchStep.elapsed
          ranges := windows.map fun w => .ofInt (max w.seconds 0) } :=
    dispatcher.metrics_run ⟨.empty, [], memory⟩ steps
  rw [hmetrics]
  refine ⟨List.length_map _, ?_, rfl, fun hlt => Metrics.toRat?_sum_widths hlt,
    dispatcher.forall₂_accounts _ steps⟩
  rw [Metrics.rangeCount, List.length_map, List.length_filterMap_eq_countP,
    ← List.countP_eq_length_filter]

/-- A request that fails, a time range without a window, and a search of an index that is looked
up: all three are counted, two windows are measured, and no request is repeated. -/
theorem run_accounts_failing :
    let later : Instant := ⟨0, 60, 0, by decide, by decide, by decide, by decide, by decide⟩
    let dispatcher : Dispatcher Bool :=
      { services :=
          { ranges := fun _ => return .ok [.latest "a_0" .epoch]
            streams := fun id => return .error (.notFound id)
            -- only the first request fails
            backend := fun _ => do
              let asked ← get
              set true
              return if asked then .ok ⟨0, false, .bare 7, none⟩ else .error .unavailable }
        readKeyword := fun _ _ => .error .calendarEnd
        leadingWildcard := false }
    let step (indices : IndexChoice) (start stop : Instant) : SearchStep :=
      { call := .count, scope := ⟨"*", none, .absolute start stop, indices⟩, now := .epoch
        elapsed := .zero false }
    let steps :=
      [step (.pattern "a_0") .epoch later, step .resolve later .epoch, step .resolve .epoch later]
    let run := dispatcher.run ⟨.empty, [], false⟩ steps
    Metrics.totalWidth (steps.filterMap dispatcher.window?) = 120
      ∧ run.2.metrics.requestCount = 3
      ∧ run.2.metrics.rangeCount = 2
      ∧ run.2.metrics.rangeSum.toRat? = some 120
      ∧ run.1.map (fun calls => (calls.filterMap ServiceCall.request?).length) = [1, 0, 1] := by
  intro later dispatcher step steps run
  have htotal : Metrics.totalWidth (steps.filterMap dispatcher.window?) = 120 := by cbv
  obtain ⟨hrequests, hranges, -, hsum, -⟩ := dispatcher.run_accounts false steps
  refine ⟨htotal, hrequests, hranges, ?_, by decide +kernel⟩
  have hexact := hsum (by rw [htotal]; norm_num)
  rwa [htotal] at hexact

end Dispatcher

end LogSearch
