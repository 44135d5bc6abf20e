import LogSearch.Proofs.Store.Order

/-!
# What comes of sorting

Of a `Sorter` no more is known than that it loses no bucket and sorts those whose comparison is
transitive. For an order it has a result for buckets, whatever sorter it is, exactly if the
comparison is transitive among them (`exists_sort?_iff`): one may give up on all others. If the keys
of a grouping agree, that is so for every order (`exists_sort?_of_agree`).

Keys of two kinds may well disagree. There is a sorter that makes nothing of `crossed` documents,
which are more than twenty.
-/

namespace LogSearch

open TermBucket

namespace Sorter

variable {sorter : Sorter} {orders : List TermsOrder} {buckets sorted : List TermBucket}

theorem sorted_of_some (h : sorter.sort? orders buckets = some sorted) :
    sorter.sorted orders buckets = .ok sorted := by
  rw [Sorter.sorted, h]

theorem sorted_of_none (h : sorter.sort? orders buckets = none) :
    sorter.sorted orders buckets = .error .unsorted := by
  rw [Sorter.sorted, h]

/-- Nothing goes wrong but that there is no end to the sorting. -/
theorem eq_unsorted_of_sorted {e : BackendError} (h : sorter.sorted orders buckets = .error e) :
    e = .unsorted := by
  cases hsort : sorter.sort? orders buckets with
  | none =>
    rw [sorted_of_none hsort] at h
    exact (Except.error.inj h).symm
  | some sorted =>
    rw [sorted_of_some hsort] at h
    cases h

/-- Where there is nothing to sort, sorting comes to an end. -/
theorem sort?_nil (sorter : Sorter) (orders : List TermsOrder) : sorter.sort? orders [] = some [] :=
  sorter.sorts fun _ h => absurd h List.not_mem_nil

/-- A few buckets are put in whatever their order. -/
theorem sort?_insertion {limit : Nat} (h : buckets.length ≤ limit) (orders : List TermsOrder) :
    (insertion limit).sort? orders buckets = some (sort orders buckets) :=
  if_pos (Bool.or_eq_true_iff.mpr (.inl (decide_eq_true h)))

/-- **Which buckets every sorter has a result for.** -/
theorem exists_sort?_iff :
    (∀ sorter : Sorter, ∃ sorted, sorter.sort? orders buckets = some sorted)
      ↔ TransOn buckets (cmp orders) := by
  constructor
  · intro h
    -- the one that puts in nothing that it cannot sort
    obtain ⟨sorted, hsorted⟩ := h (insertion 0)
    obtain ⟨hif, -⟩ := Option.ite_none_right_eq_some.mp hsorted
    rcases Bool.or_eq_true_iff.mp hif with hnil | htrans
    · rw [List.length_eq_zero_iff.mp (Nat.le_zero.mp (of_decide_eq_true hnil))]
      exact fun _ h => absurd h List.not_mem_nil
    · exact isTransOn_iff.mp htrans
  · exact fun h sorter => ⟨_, sorter.sorts h⟩

end Sorter

/-! ## Groupings -/

section

variable {sorter : Sorter} {aggregations : List (String × Aggregation)}
  {inner : List Document → List (String × Json)} {field : String} {documents : List Document}

/-- Keys that agree give the buckets of a grouping one order, whatever the criteria. -/
theorem TermGroup.trans_of_agree (hinner : Aggregation.Gives sorter aggregations inner)
    (hagree : Agree (buckets inner field documents)) (orders : List TermsOrder) :
    TransOn (buckets inner field documents) (cmp orders) := by
  have hbuckets := buckets?_of_gives hinner field documents
  have hplaced : ∀ bucket ∈ buckets inner field documents, bucket.Placed :=
    fun _ hbucket => placed_of_mem_buckets? hbuckets hbucket
  exact cmp_trans hplaced (hagree.trans hplaced (nodup_buckets? hbuckets)) orders

/-- **Keys that agree are sorted**, whatever sorts them. -/
theorem Sorter.exists_sort?_of_agree (hinner : Aggregation.Gives sorter aggregations inner)
    (hagree : Agree (TermGroup.buckets inner field documents)) (orders : List TermsOrder) :
    ∃ sorted, sorter.sort? orders (TermGroup.buckets inner field documents) = some sorted :=
  ⟨_, sorter.sorts (TermGroup.trans_of_agree hinner hagree orders)⟩

end

/-! ## Keys that cross -/

/-- Documents with five numbers and sixteen texts, whose identities lie between those of the
numbers. -/
def crossed : List Document :=
  let numbers := [1, 4, 7, 10, 13].map Json.int
  let texts := (List.range 16).map fun k => Json.str (toString (16 - k) ++ "x")
  (numbers ++ texts).map fun value => ⟨.epoch, [("n", value)]⟩

/-- There is a sorter that has no result for these. -/
theorem sort?_crossed :
    (Sorter.insertion 20).sort? [⟨.count, false⟩, ⟨.key, true⟩]
      (TermGroup.buckets (fun _ => []) "n" crossed) = none := by
  have hnone : ((Sorter.insertion 20).sort? [⟨.count, false⟩, ⟨.key, true⟩]
      (TermGroup.buckets (fun _ => []) "n" crossed)).isNone = true := by
    decide +kernel
  exact Option.isNone_iff_eq_none.mp hnone

end LogSearch
