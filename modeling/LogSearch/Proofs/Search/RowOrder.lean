import Mathlib
import LogSearch.Proofs.Search.Kinds
import LogSearch.Proofs.Search.Rows

/-!
# Rows in order

A search for statistics by value has one row for each value, if it asks for enough of them. What is
in a row does not depend on the order of the rows, so the rows of two orders are the same ones
(`perm_sortedRows`), and each order sorts them by what it names: rows are compared as the buckets
that they are read from (`pairwise_sortedRows`). A number that is missing in the row is missing in
the bucket (`metric?_stats`), and its row comes behind those that have the number, forwards and in
reverse.

Main statement: so if the values that a store finds are of one kind, whatever sorts their buckets,
the orders permute and sort one list of rows (`groupedStats_rows_ordered`).
-/

namespace LogSearch

variable {α : Type} [LinearOrder α] {kind : ValueKind α} {keyField valueField : String}
  {order : RowOrder} {size : Nat} {hits : List Document}

/-- The term of a row comes before that of another. -/
def ValueKind.Before (kind : ValueKind α) (row next : StatsRow) : Prop :=
  ∃ v u, row.term = kind.name v ∧ next.term = kind.name u ∧ v < u

/-- Every order has the same rows, and sorts them by what it names. -/
structure RowsOrdered (kind : ValueKind α) (rows : RowOrder → List StatsRow) : Prop where
  perm : ∀ order other, (rows order).Perm (rows other)
  count : (rows ⟨.count, .asc⟩).Pairwise fun row next =>
    row.documents < next.documents ∨ row.documents = next.documents ∧ kind.Before row next
  reverseCount : (rows ⟨.count, .desc⟩).Pairwise fun row next =>
    next.documents < row.documents ∨ row.documents = next.documents ∧ kind.Before row next
  term : (rows ⟨.term, .asc⟩).Pairwise fun row next => kind.Before row next
  reverseTerm : (rows ⟨.term, .desc⟩).Pairwise fun row next => kind.Before next row
  least : ∀ direction, (rows ⟨.min, direction⟩).Pairwise fun row next =>
    row.least = none → next.least = none
  greatest : ∀ direction, (rows ⟨.max, direction⟩).Pairwise fun row next =>
    row.greatest = none → next.greatest = none
  mean : ∀ direction, (rows ⟨.mean, direction⟩).Pairwise fun row next =>
    row.mean = none → next.mean = none

/-! ## Rows of buckets -/

namespace Operation

/-- The row that is read from a bucket. -/
def rowAt (keyField valueField : String) (hits : List Document) (bucket : TermBucket) : StatsRow :=
  rowFor keyField valueField hits bucket.identity bucket.view.keyText

/-- The rows of hits in an order. -/
def sortedRows (keyField valueField : String) (order : RowOrder) (size : Nat)
    (hits : List Document) : List StatsRow :=
  rowsOf keyField valueField size hits
    (TermBucket.sort order.criteria (groupBuckets keyField valueField hits))

variable {bucket : TermBucket} {v : α}

theorem documents_rowAt (h : bucket ∈ groupBuckets keyField valueField hits) :
    (rowAt keyField valueField hits bucket).documents = bucket.count := by
  rw [TermGroup.count_of_mem_buckets h]
  simp only [← Document.hasTerm_eq_carries]
  rfl

theorem term_rowAt (hv : kind.IsFor keyField hits bucket v) :
    (rowAt keyField valueField hits bucket).term = kind.name v := hv.keyText_view

theorem toBinary64?_numberOrNull (x : Option Binary64) :
    (Moments.numberOrNull x).toBinary64? = x.bind Binary64.finite? := by
  cases x with
  | none => rfl
  | some x =>
    show (Json.float x).toBinary64? = x.finite?
    rw [Json.float, Binary64.finite?]
    cases x.isFinite <;> rfl

/-- **A bucket has the numbers of its row.** -/
theorem metric?_stats (h : bucket ∈ groupBuckets keyField valueField hits) :
    bucket.metric? "stats" "min" = (rowAt keyField valueField hits bucket).least
      ∧ bucket.metric? "stats" "max" = (rowAt keyField valueField hits bucket).greatest
      ∧ bucket.metric? "stats" "avg" = (rowAt keyField valueField hits bucket).mean := by
  obtain ⟨group, hgroup, rfl⟩ := List.mem_map.mp h
  have hmembers := TermGroup.members_eq_filter hgroup
  let moments := Metric.moments valueField group.members
  have hmetric : ∀ name json, moments.stats.get? name = some json →
      (TermGroup.bucket (groupResults valueField) group).metric? "stats" name
        = json.toBinary64? := by
    intro name json hget
    show (moments.stats.get? name).bind Json.toBinary64? = json.toBinary64?
    rw [hget, Option.bind_some]
  have hrow : ∀ {β : Type} (part : StatsView → β), part moments.view
      = part (Metric.moments valueField (hits.filter fun document =>
          document.hasTerm keyField group.identity)).view := by
    intro β part
    rw [← hmembers]
  refine ⟨?_, ?_, ?_⟩
  · exact (hmetric "min" _ rfl).trans ((toBinary64?_numberOrNull _).trans (hrow StatsView.least))
  · exact (hmetric "max" _ rfl).trans ((toBinary64?_numberOrNull _).trans (hrow StatsView.greatest))
  · exact (hmetric "avg" _ rfl).trans ((toBinary64?_numberOrNull _).trans (hrow StatsView.mean))

/-! ## Rows of hits -/

/-- **The rows of two orders are the same**, if there are as many as values. -/
theorem perm_sortedRows (hcovers : kind.Covers keyField hits)
    (hsize : (kind.distinct keyField hits).length ≤ size) (order other : RowOrder) :
    (sortedRows keyField valueField order size hits).Perm
      (sortedRows keyField valueField other size hits) := by
  let sorted (order : RowOrder) : List TermBucket :=
    TermBucket.sort order.criteria (groupBuckets keyField valueField hits)
  have hperm (order : RowOrder) : (sorted order).Perm (groupBuckets keyField valueField hits) :=
    TermBucket.sort_perm _ _
  have hall (order : RowOrder) : (sorted order).take size = sorted order :=
    List.take_of_length_le (by rwa [ValueKind.length_buckets hcovers (hperm order)])
  rw [sortedRows, sortedRows, rowsOf, rowsOf, hall, hall]
  exact ((hperm order).trans (hperm other).symm).map _

/-- **Rows stand in the order of their buckets.** -/
theorem pairwise_sortedRows {R : StatsRow → StatsRow → Prop} (hcovers : kind.Covers keyField hits)
    (h : ∀ a ∈ groupBuckets keyField valueField hits,
      ∀ b ∈ groupBuckets keyField valueField hits, ∀ v u, v ≠ u →
        kind.IsFor keyField hits a v → kind.IsFor keyField hits b u →
        (TermBucket.cmp order.criteria a b).isLE →
        R (rowAt keyField valueField hits a) (rowAt keyField valueField hits b)) (size : Nat) :
    (sortedRows keyField valueField order size hits).Pairwise R := by
  have hperm := TermBucket.sort_perm order.criteria (groupBuckets keyField valueField hits)
  -- nothing is sorted inside the buckets, so any sorter does
  have hsorted := TermBucket.sort_pairwise
    (ValueKind.trans_buckets hcovers (gives_groupResults (.insertion 0) valueField) order.criteria)
  have hdifferent := List.pairwise_map.mp ((hperm.map TermBucket.identity).nodup_iff.mpr
    (TermGroup.nodup_buckets (groupResults valueField) keyField hits))
  refine List.pairwise_map.mpr (List.Pairwise.sublist (List.take_sublist _ _) ?_)
  refine (hsorted.and hdifferent).imp_of_mem fun {a b} ha hb hab => ?_
  have hbucket := hperm.mem_iff.mp ha
  have hother := hperm.mem_iff.mp hb
  obtain ⟨v, hv⟩ := ValueKind.exists_isFor hcovers hbucket
  obtain ⟨u, hu⟩ := ValueKind.exists_isFor hcovers hother
  refine h a hbucket b hother v u (fun heq => hab.2 ?_) hv hu hab.1
  rw [hv.identity, hu.identity, heq]

/-- Rows without the number that they are ordered by stand behind. -/
theorem pairwise_of_metric {key : RowKey} {name : String} {part : StatsRow → Option Binary64}
    (hkey : RowOrder.targetOf key = .metric "stats" name)
    (hpart : ∀ bucket ∈ groupBuckets keyField valueField hits,
      bucket.metric? "stats" name = part (rowAt keyField valueField hits bucket))
    (hcovers : kind.Covers keyField hits) (size : Nat) (direction : Direction) :
    (sortedRows keyField valueField ⟨key, direction⟩ size hits).Pairwise fun row next =>
      part row = none → part next = none := by
  have hfirst : ∃ rest, RowOrder.criteria ⟨key, direction⟩
      = ⟨.metric "stats" name, direction = .asc⟩ :: rest := by
    cases key <;> cases hkey <;> exact ⟨_, rfl⟩
  obtain ⟨rest, hcriteria⟩ := hfirst
  refine pairwise_sortedRows hcovers (fun a ha b hb _ _ _ _ _ hle => ?_) size
  rw [hcriteria] at hle
  rw [← hpart a ha, ← hpart b hb]
  exact TermBucket.metric?_eq_none_of_isLE hle

/-- **Every order sorts the rows by what it names.** -/
theorem rowsOrdered (hcovers : kind.Covers keyField hits)
    (hsize : (kind.distinct keyField hits).length ≤ size) :
    RowsOrdered kind fun order => sortedRows keyField valueField order size hits := by
  have hbefore : ∀ {a b : TermBucket} {v u : α}, v ≠ u → kind.IsFor keyField hits a v →
      kind.IsFor keyField hits b u → (TermBucket.compareKeys a b).isLE →
      kind.Before (rowAt keyField valueField hits a) (rowAt keyField valueField hits b) := by
    intro a b v u hne hv hu hle
    exact ⟨v, u, term_rowAt hv, term_rowAt hu,
      lt_of_le_of_ne ((hv.isLE_compareKeys hu).mp hle) hne⟩
  refine
    { perm := perm_sortedRows hcovers hsize
      count := ?count
      reverseCount := ?reverseCount
      term := ?term
      reverseTerm := ?reverseTerm
      least := pairwise_of_metric rfl (fun _ h => (metric?_stats h).1) hcovers size
      greatest := pairwise_of_metric rfl (fun _ h => (metric?_stats h).2.1) hcovers size
      mean := pairwise_of_metric rfl (fun _ h => (metric?_stats h).2.2) hcovers size }
  case count =>
    refine pairwise_sortedRows hcovers (fun a ha b hb v u hne hv hu hle => ?_) size
    rw [documents_rowAt ha, documents_rowAt hb]
    exact (TermBucket.isLE_cmp_count.mp hle).imp id (And.imp_right (hbefore hne hv hu))
  case reverseCount =>
    refine pairwise_sortedRows hcovers (fun a ha b hb v u hne hv hu hle => ?_) size
    rw [documents_rowAt ha, documents_rowAt hb]
    exact (TermBucket.isLE_cmp_count.mp hle).imp id (And.imp_right (hbefore hne hv hu))
  case term =>
    refine pairwise_sortedRows hcovers (fun a _ b _ v u hne hv hu hle => ?_) size
    exact hbefore hne hv hu (TermBucket.isLE_cmp_key.mp hle)
  case reverseTerm =>
    refine pairwise_sortedRows hcovers (fun a _ b _ v u hne hv hu hle => ?_) size
    exact hbefore hne.symm hu hv (TermBucket.isLE_cmp_key.mp hle)

end Operation

/-! ## Searches -/

namespace Searcher

/-- Rows of values of one kind are sorted, whatever sorts their buckets. -/
theorem exists_run_rowsOrdered {searcher : Searcher} {now : Instant} {scope : SearchScope}
    {q f : Clause} {plan : SearchPlan} (store : Store)
    (hplan : searcher.plan now scope none = .ok plan) (hquery : Query.parse scope.query = .ok q)
    (hfilter : Query.parse (scope.filter.getD "*") = .ok f) (valueField : String) (size : Nat)
    (hcovers : kind.Covers keyField
      (store.hits plan.request.indices (q.selects f plan.window.wholeMillis))) :
    ∃ rows : RowOrder → List StatsRow,
      (∀ order, ∃ reported, (searcher.run store.backend now scope
          (.groupedStats keyField valueField order size)).result = .ok reported
        ∧ reported.result.rows = rows order)
      ∧ ((kind.distinct keyField (store.hits plan.request.indices
          (q.selects f plan.window.wholeMillis))).length ≤ size → RowsOrdered kind rows) := by
  refine ⟨fun order => Operation.sortedRows keyField valueField order size _, fun order => ?_,
    Operation.rowsOrdered hcovers⟩
  have htrans := ValueKind.trans_buckets hcovers
    (Operation.gives_groupResults store.sorter valueField) order.criteria
  obtain ⟨reported, hrun, hresult⟩ := exists_run_eq_ok store hplan hquery hfilter
    (Operation.read_groupedStats_none store.sorter keyField valueField order size _)
    (by rw [Operation.onHits_groupedStats, Operation.groupBuckets,
      Sorter.sorted_of_some (store.sorter.sorts htrans)]; rfl)
  exact ⟨reported, hrun, congrArg GroupedStatsResult.rows hresult⟩

/-- **Orders permute and sort one list of rows.** If all values of the key field in what a search
finds are texts, or all are integers of up to 53 bits, there is a result for every order. If there
are no more of the values than rows that are asked for, every order has the same rows: by count up
or down with equal counts in the order of their keys, by key forwards or in reverse, and by a metric
with the rows that lack it behind. -/
theorem groupedStats_rows_ordered (searcher : Searcher) (store : Store) (now : Instant)
    (scope : SearchScope) (q f : Clause) (keyField valueField : String) (size : Nat)
    (hquery : Query.parse scope.query = .ok q)
    (hfilter : Query.parse (scope.filter.getD "*") = .ok f) :
    let run (order : RowOrder) := (searcher.run store.backend now scope
      (.groupedStats keyField valueField order size)).result
    match searcher.plan now scope none with
    | .error failure => ∀ order, run order = .error failure.error
    | .ok plan =>
      let hits := store.hits plan.request.indices (q.selects f plan.window.wholeMillis)
      (ValueKind.texts.Covers keyField hits → ∃ rows : RowOrder → List StatsRow,
        (∀ order, ∃ reported, run order = .ok reported ∧ reported.result.rows = rows order)
        ∧ ((ValueKind.texts.distinct keyField hits).length ≤ size →
          RowsOrdered ValueKind.texts rows))
      ∧ (ValueKind.integers.Covers keyField hits → ∃ rows : RowOrder → List StatsRow,
        (∀ order, ∃ reported, run order = .ok reported ∧ reported.result.rows = rows order)
        ∧ ((ValueKind.integers.distinct keyField hits).length ≤ size →
          RowsOrdered ValueKind.integers rows)) := by
  intro run
  split
  · next failure hplan => exact fun order => run_of_plan_error hplan store.backend _
  · next plan hplan =>
    exact ⟨exists_run_rowsOrdered store hplan hquery hfilter valueField size,
      exists_run_rowsOrdered store hplan hquery hfilter valueField size⟩

/-- Integers with and without numbers in their documents. -/
theorem groupedStats_rows_ordered_partly :
    let document (k v : Json) : Document := ⟨.epoch, [("k", k), ("v", v)]⟩
    let store : Store := ⟨[("a_0", [document (.int 10) (.int 3), document (.int 2) .null,
      document (.int 10) .null, document (.int (-1)) (.int 5)])], [], .insertion 20⟩
    let searcher : Searcher :=
      ⟨⟨(⟨[]⟩ : RangeTable).lookup, lookupStream [], fun _ _ => .error .calendarEnd⟩, true⟩
    let scope : SearchScope := ⟨"*", none, .absolute .epoch .epoch, .pattern "a_0"⟩
    let run (order : RowOrder) := (searcher.run store.backend .epoch scope
      (.groupedStats "k" "v" order 3)).result
    ValueKind.integers.Covers "k" (store.documents "a_0")
      ∧ (ValueKind.integers.distinct "k" (store.documents "a_0")).length ≤ 3
      ∧ ∃ rows : RowOrder → List StatsRow,
        (∀ order, ∃ reported, run order = .ok reported ∧ reported.result.rows = rows order)
        ∧ RowsOrdered ValueKind.integers rows := by
  intro document store searcher scope run
  have hquery : Query.parse "*" = .ok (.term .all) := rfl
  have hplan : searcher.plan .epoch scope none
      = .ok ⟨⟨.epoch, .epoch⟩, ["a_0"], searcher.body scope ⟨.epoch, .epoch⟩ none⟩ := by cbv
  have hhits : store.hits ["a_0"] ((Clause.term .all).selects (.term .all)
      (⟨.epoch, .epoch⟩ : Window).wholeMillis) = store.documents "a_0" := by cbv
  have hcovers : ValueKind.integers.Covers "k" (store.documents "a_0") := by
    unfold ValueKind.Covers
    decide +kernel
  have hthree : (ValueKind.integers.distinct "k" (store.documents "a_0")).length ≤ 3 := by
    decide +kernel
  have hordered := groupedStats_rows_ordered searcher store .epoch scope (.term .all) (.term .all)
    "k" "v" 3 hquery hquery
  rw [hplan] at hordered
  simp only [hhits] at hordered
  obtain ⟨rows, hruns, hrows⟩ := hordered.2 hcovers
  exact ⟨hcovers, hthree, rows, hruns, hrows hthree⟩

end Searcher

end LogSearch
