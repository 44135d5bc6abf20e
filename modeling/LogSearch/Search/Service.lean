import LogSearch.Search.Dispatch
import LogSearch.Stateful

/-!
# Searches with services

Index ranges, streams and responses come from services. A service may answer the same question
differently each time and may fail at any time: what it answers depends on a memory, which every
call may change. A `Dispatcher` carries out operations with what its services answer.

It works out the window, takes a sample of its width, looks the indices up, and sends the request.
The first failure ends the operation. An operation that ends is counted, however it ends.
-/

namespace LogSearch

/-! ## Services -/

/-- Services with a common memory. -/
structure Services (σ : Type) where
  ranges : Window → StateM σ (Except IndexRangeError (List IndexRange))
  streams : String → StateM σ (Except StreamError Stream)
  backend : SearchRequest → StateM σ (Except BackendError SearchResponse)

/-- What a service was asked, and what it answered. -/
inductive ServiceCall where
  | ranges (w : Window) (answer : Except IndexRangeError (List IndexRange))
  | stream (id : String) (answer : Except StreamError Stream)
  | search (request : SearchRequest) (answer : Except BackendError SearchResponse)

/-- What changes while operations are carried out. -/
structure SearchState (σ : Type) where
  metrics : Metrics
  /-- The calls of the services since the operation began. -/
  calls : List ServiceCall
  /-- The memory of the services. -/
  memory : σ

/-- A computation that calls services and is measured. -/
abbrev SearchM (σ : Type) := Stateful (SearchState σ) SearchError

namespace SearchM

variable {σ ε α : Type}

/-- Calls a service. This is the only way to reach one. -/
def call (service : StateM σ (Except ε α)) (note : Except ε α → ServiceCall)
    (wrap : ε → SearchError) : SearchM σ α := do
  let state ← get
  let (answer, memory) := StateT.run service state.memory
  set { state with calls := state.calls ++ [note answer], memory }
  match answer with
  | .ok value => return value
  | .error e => throw (wrap e)

/-- Takes a sample of the width of a window. -/
def sample (w : Window) : SearchM σ Unit :=
  modify fun state => { state with metrics := state.metrics.recordRange w.seconds }

/-- Counts a computation once it has ended, with or without a value. -/
def timed (elapsed : Binary64) (action : SearchM σ α) : SearchM σ α :=
  tryFinally action
    (modify fun state => { state with metrics := state.metrics.recordRequest elapsed })

end SearchM

/-! ## Operations with services -/

/-- What carries out operations. -/
structure Dispatcher (σ : Type) where
  services : Services σ
  readKeyword : KeywordReader
  leadingWildcard : Bool

namespace Dispatcher

variable {σ α : Type}

/-- The ranges of a window that a filter leaves, in order. -/
def rangesOf (dispatcher : Dispatcher σ) (w : Window) (filter : Option String) :
    SearchM σ (List IndexRange) := do
  let found ← SearchM.call (dispatcher.services.ranges w) (.ranges w) .indexRange
  match filter.bind markedStream? with
  | none => return orderRanges found
  | some id =>
    let stream ← SearchM.call (dispatcher.services.streams id) (.stream id) .stream
    return orderRanges (found.filter fun range => stream.indexSet.manages range.name)

/-- The indices of a scope within a window. -/
def indices (dispatcher : Dispatcher σ) (scope : SearchScope) (w : Window) :
    SearchM σ (List String) :=
  match scope.indices with
  | .resolve => do
    let ranges ← dispatcher.rangesOf w scope.filter
    return ranges.map IndexRange.name
  | .pattern names => return namesOfPattern names

/-- The body of a request for a scope within a window. -/
def body (dispatcher : Dispatcher σ) (scope : SearchScope) (w : Window)
    (aggregations : Option (List (String × Json))) : Json :=
  Query.body (Query.filtered scope.query scope.filter (some w) dispatcher.leadingWildcard)
    aggregations

/-- The plan of a search of a scope at an instant. -/
def prepare (dispatcher : Dispatcher σ) (now : Instant) (scope : SearchScope)
    (aggregations : Option (List (String × Json))) : SearchM σ SearchPlan := do
  match scope.range.resolve dispatcher.readKeyword now with
  | .error e => throw (.timeRange e)
  | .ok w =>
    SearchM.sample w
    let names ← dispatcher.indices scope w
    return ⟨w, names, dispatcher.body scope w aggregations⟩

/-- The response to a plan; nothing is sent if there is no index. -/
def execute (dispatcher : Dispatcher σ) (plan : SearchPlan) :
    SearchM σ (Option SearchResponse) := do
  if plan.asks then
    let response ←
      SearchM.call (dispatcher.services.backend plan.request) (.search plan.request) .backend
    return some response
  else return none

/-- Carries out an operation on a scope at an instant; it takes some time. -/
def carryOut (dispatcher : Dispatcher σ) (operation : Operation α) (scope : SearchScope)
    (now : Instant) (elapsed : Binary64) : SearchM σ (Reported α) :=
  SearchM.timed elapsed do
    let plan ← dispatcher.prepare now scope operation.aggregations
    let response ← dispatcher.execute plan
    match plan.report operation response with
    | .ok result => return result
    | .error e => throw e

end Dispatcher

/-! ## Steps -/

/-- One of the operations, with its parameters. -/
inductive SearchCall where
  | count
  | terms (field : String) (size : Nat) (direction : Direction)
  | groupedStats (keyField valueField : String) (order : RowOrder) (size : Nat)
  | histogram (interval : Interval)
  | fieldHistogram (field : String) (interval : Interval) (full : Bool)
  | fieldStats (field : String)

namespace SearchCall

/-- What an operation gives. -/
def Result : SearchCall → Type
  | .count => CountResult
  | .terms .. => TermsResult
  | .groupedStats .. => GroupedStatsResult
  | .histogram _ => HistogramResult Nat
  | .fieldHistogram .. => HistogramResult BucketStats
  | .fieldStats _ => FieldStatsResult

/-- The operation. -/
def operation : (call : SearchCall) → Operation call.Result
  | .count => Operation.count
  | .terms field size direction => Operation.terms field size direction
  | .groupedStats keyField valueField order size =>
    Operation.groupedStats keyField valueField order size
  | .histogram interval => Operation.histogram interval
  | .fieldHistogram field interval full => Operation.fieldHistogram field interval full
  | .fieldStats field => Operation.fieldStats field

end SearchCall

/-- An operation that is asked for. -/
structure SearchStep where
  call : SearchCall
  scope : SearchScope
  /-- When it is asked for. -/
  now : Instant
  /-- How many seconds it takes. -/
  elapsed : Binary64

namespace Dispatcher

variable {σ : Type}

/-- The result of a step. -/
def answer (dispatcher : Dispatcher σ) (step : SearchStep) :
    SearchM σ (Reported step.call.Result) :=
  dispatcher.carryOut step.call.operation step.scope step.now step.elapsed

/-- The result of a step, and the state after it, with the calls of the step. -/
def advance (dispatcher : Dispatcher σ) (state : SearchState σ) (step : SearchStep) :
    Except SearchError (Reported step.call.Result) × SearchState σ :=
  (dispatcher.answer step).perform { state with calls := [] }

/-- The calls of each of some steps, and the state after the last. -/
def run (dispatcher : Dispatcher σ) (state : SearchState σ) :
    List SearchStep → List (List ServiceCall) × SearchState σ
  | [] => ([], state)
  | step :: steps =>
    let after := (dispatcher.advance state step).2
    let (calls, last) := dispatcher.run after steps
    (after.calls :: calls, last)

end Dispatcher

end LogSearch
