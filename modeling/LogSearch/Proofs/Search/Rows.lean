import Mathlib
import LogSearch.Proofs.Search.Terms

/-!
# Searches for statistics by value

A search for the statistics of a field, grouped by the values of another, asks for statistics inside
each bucket of a grouping by value. What is written of a bucket is read back as a row: the text of
its key, the number of its documents, and the statistics of the documents that have its identity.

Main statement: the rows of hits are those of the first buckets, in the order that they are sorted
in (`onHits_groupedStats`).
-/

namespace LogSearch

/-! ## Orders -/

namespace RowOrder

/-- What buckets are compared by for a key. -/
def targetOf : RowKey → OrderTarget
  | .term => .key
  | .count => .count
  | .total => .metric "stats" "sum"
  | .min => .metric "stats" "min"
  | .max => .metric "stats" "max"
  | .mean => .metric "stats" "avg"

/-- The criteria of an order; terms decide between equal rows. -/
def criteria (order : RowOrder) : List TermsOrder :=
  let primary : TermsOrder := ⟨targetOf order.key, order.direction = .asc⟩
  match order.key with
  | .term => [primary]
  | _ => [primary, ⟨.key, true⟩]

/-- **An order is read as it was written.** -/
theorem ofJson_toJson (order : RowOrder) : TermsOrder.ofJson order.toJson = .ok order.criteria := by
  obtain ⟨key, direction⟩ := order
  cases key <;> cases direction <;> rfl

end RowOrder

/-! ## Rows -/

namespace Operation

/-- What is computed in each bucket of a grouping with statistics. -/
def groupResults (valueField : String) (members : List Document) : List (String × Json) :=
  [("stats", Metric.stats.run valueField members)]

/-- The buckets of hits, with statistics. -/
def groupBuckets (keyField valueField : String) (hits : List Document) : List TermBucket :=
  TermGroup.buckets (groupResults valueField) keyField hits

/-- The row of the documents with an identity among the values of a field, under a text. -/
def rowFor (keyField valueField : String) (hits : List Document) (identity term : String) :
    StatsRow :=
  let documents := hits.filter fun document => document.hasTerm keyField identity
  let view := (Metric.moments valueField documents).view
  { term
    count := view.count
    least := view.least
    greatest := view.greatest
    total := view.sum
    documents := documents.length
    mean := view.mean }

/-- The rows of hits, once their buckets are sorted. -/
def rowsOf (keyField valueField : String) (size : Nat) (hits : List Document)
    (sorted : List TermBucket) : List StatsRow :=
  (sorted.take size).map fun bucket =>
    rowFor keyField valueField hits bucket.identity bucket.view.keyText

variable {keyField valueField : String} {hits : List Document} {sorted : List TermBucket}
  {bucket : TermBucket}

/-- Statistics are computed in the buckets. -/
theorem gives_groupResults (sorter : Sorter) (valueField : String) :
    Aggregation.Gives sorter [("stats", .metric .stats valueField)] (groupResults valueField) :=
  fun _ _ => rfl

/-- A bucket as it is read back. -/
def groupView (bucket : TermBucket) : Bucket :=
  ⟨bucket.key, bucket.count,
    bucket.body.filter fun (name, _) => name != "key" && name != "doc_count"⟩

theorem ofJson?_groupBucket (h : bucket ∈ groupBuckets keyField valueField hits) :
    Bucket.ofJson? (.obj bucket.body) = some (groupView bucket) := by
  obtain ⟨group, _, rfl⟩ := List.mem_map.mp h
  exact Bucket.ofJson?_obj rfl rfl

/-- **What is read from a bucket.** -/
theorem rowOf_groupView (h : bucket ∈ groupBuckets keyField valueField hits) :
    rowOf (groupView bucket)
      = .ok (rowFor keyField valueField hits bucket.identity bucket.view.keyText) := by
  obtain ⟨group, hgroup, rfl⟩ := List.mem_map.mp h
  have hstats : (groupView (TermGroup.bucket (groupResults valueField) group)).inner
      StatsView.ofJson? "stats" = .ok (Metric.moments valueField group.members).view :=
    Bucket.inner_eq_ok rfl (Metric.moments valueField group.members).ofJson?_stats
  rw [rowOf, hstats, rowFor]
  dsimp only [TermGroup.bucket]
  rw [← TermGroup.members_eq_filter hgroup]
  rfl

/-- The rows of hits are read from their first buckets. -/
theorem mapM_rowOf (hperm : sorted.Perm (groupBuckets keyField valueField hits)) (size : Nat) :
    ((sorted.take size).map groupView).mapM rowOf
      = .ok (rowsOf keyField valueField size hits sorted) := by
  rw [List.mapM_map]
  exact mapM_eq_ok fun bucket h =>
    rowOf_groupView (hperm.mem_iff.mp (List.mem_of_mem_take h))

/-! ## Operations -/

theorem ofFields_groupedStats (keyField valueField : String) (order : RowOrder) (size : Nat) :
    Aggregation.ofFields [("terms", Query.groupedStats keyField valueField order size)]
      = [("terms", .terms keyField size order.criteria
          [("stats", .metric .stats valueField)])] := by
  have hsize : (((Json.obj [("size", Json.nat size)]).get? "size").bind Json.toNat?).getD 10
      = size := by
    show ((Json.nat size).toNat?).getD 10 = size
    rw [Json.toNat?_nat, Option.getD_some]
  have hterms : Aggregation.ofJson "terms" (Query.groupedStats keyField valueField order size)
      = Aggregation.ofTerms keyField
          (.obj [("field", .str keyField), ("order", order.toJson), ("size", .nat size)])
          [("stats", .metric .stats valueField)] := rfl
  have horder : TermsOrder.ofJson? ((Json.obj
      [("field", .str keyField), ("order", order.toJson), ("size", .nat size)]).get? "order")
      = .ok order.criteria := order.ofJson_toJson
  rw [Aggregation.ofFields, Aggregation.ofFields, hterms, Aggregation.ofTerms, horder]
  exact congrArg (fun n => [("terms", Aggregation.terms keyField n order.criteria
    [("stats", .metric .stats valueField)])]) hsize

/-- **What a search for statistics by value makes of hits**, if their buckets can be sorted. -/
theorem onHits_groupedStats (sorter : Sorter) (keyField valueField : String) (order : RowOrder)
    (size : Nat) (w : Window) (hits : List Document) :
    (Operation.groupedStats keyField valueField order size).onHits sorter w hits
      = (sorter.sorted order.criteria (groupBuckets keyField valueField hits)).map fun sorted =>
          ⟨rowsOf keyField valueField size hits sorted⟩ := by
  have hrun := TermGroup.run_terms (gives_groupResults sorter valueField) hits keyField size
    order.criteria
  let results (sorted : List TermBucket) : List (String × Json) :=
    [("terms", Aggregation.termsResult size sorted)]
  have hanswer : Store.answer sorter hits
      (Operation.groupedStats keyField valueField order size).aggregations
        = (sorter.sorted order.criteria (groupBuckets keyField valueField hits)).map fun sorted =>
            Store.respond hits (some (.obj (results sorted))) := by
    simp only [Operation.groupedStats, Store.answer, ofFields_groupedStats, Aggregation.runInto,
      hrun]
    rw [groupBuckets]
    cases sorter.sorted order.criteria
      (TermGroup.buckets (groupResults valueField) keyField hits) <;> rfl
  rw [onHits, hanswer]
  cases hsort : sorter.sort? order.criteria (groupBuckets keyField valueField hits) with
  | none =>
    rw [Sorter.sorted_of_none hsort]
    rfl
  | some sorted =>
    have hperm := sorter.perm hsort
    have hbuckets : ∀ bucket ∈ sorted, Bucket.ofJson? (.obj bucket.body) = some (groupView bucket) :=
      fun _ hbucket => ofJson?_groupBucket (hperm.mem_iff.mp hbucket)
    have hterms : aggregationResult TermsView.ofJson? (some (.obj (results sorted))) "terms"
        = .ok _ := aggregationResult_eq_ok rfl (TermsView.ofJson?_termsResult hbuckets size)
    rw [Sorter.sorted_of_some hsort]
    simp only [Except.map, Except.bind, Operation.groupedStats, Store.respond, hterms, ok_bind,
      mapM_rowOf hperm]
    rfl

/-- Without indices the result is that of no hits. -/
theorem read_groupedStats_none (sorter : Sorter) (keyField valueField : String) (order : RowOrder)
    (size : Nat) (w : Window) :
    (Operation.groupedStats keyField valueField order size).read w none
      = (Operation.groupedStats keyField valueField order size).onHits sorter w [] := by
  have hnone : sorter.sorted order.criteria (groupBuckets keyField valueField []) = .ok [] :=
    Sorter.sorted_of_some (sorter.sort?_nil _)
  rw [onHits_groupedStats, hnone, Except.map, rowsOf, List.take_nil]
  rfl

end Operation

end LogSearch
