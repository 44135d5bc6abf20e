import Mathlib
import LogSearch.Proofs.Search.Kinds
import LogSearch.Proofs.Text.ByteOrder

/-!
# The first values

A search for the most frequent values, or for the least frequent ones, lists as many as it asks for
and counts the others together. Of values of one kind it lists those that come first by count, and
values that are as frequent in their own order (`exists_holdsTop`); nothing is listed twice and
nothing is lost under the name of another value.

Main statement: so a search of a store gives the first texts, or the first integers, of what it
finds (`terms_first_values`).
-/

namespace LogSearch

variable {α : Type} [LinearOrder α] {kind : ValueKind α} {field : String} {size : Nat}
  {direction : Direction} {hits : List Document}

/-! ## First values -/

/-- A value comes before another in a list by count: it is more frequent, or less if the least
frequent ones come first, or as frequent and before the other in their order. -/
def ValueKind.Precedes (kind : ValueKind α) (field : String) (direction : Direction)
    (hits : List Document) (v u : α) : Prop :=
  (match direction with
    | .desc => kind.count field hits u < kind.count field hits v
    | .asc => kind.count field hits v < kind.count field hits u)
  ∨ kind.count field hits v = kind.count field hits u ∧ v < u

/-- A result lists the values that come first, and adds up the counts of the others, which were cut
off. -/
structure HoldsTop (kind : ValueKind α) (field : String) (size : Nat) (direction : Direction)
    (hits : List Document) (result : TermsResult) (shown cut : List α) : Prop where
  values : (shown ++ cut).Perm (kind.distinct field hits)
  length_shown : shown.length = min size (kind.distinct field hits).length
  terms : result.terms.Perm (shown.map fun v => (kind.name v, kind.count field hits v))
  precedes : ∀ v ∈ shown, ∀ u ∈ cut, kind.Precedes field direction hits v u
  other : result.other = (cut.map (kind.count field hits)).sum

namespace ValueKind

variable {buckets : List TermBucket} {a b : TermBucket} {v u : α}

theorem Precedes.lt_of_count_eq (h : kind.Precedes field direction hits v u)
    (hcount : kind.count field hits v = kind.count field hits u) : v < u := by
  rcases h with hbefore | ⟨-, hlt⟩
  · cases direction <;> exact absurd hbefore (by simp only [hcount, lt_irrefl, not_false_eq_true])
  · exact hlt

/-- Different values come in the order of their buckets. -/
theorem precedes_of_isLE (hv : kind.IsFor field hits a v) (hu : kind.IsFor field hits b u)
    (hle : (TermBucket.cmp (Operation.byCount direction) a b).isLE) (hne : v ≠ u) :
    kind.Precedes field direction hits v u := by
  rw [Operation.byCount, TermBucket.isLE_cmp_count, hv.count, hu.count,
    hv.isLE_compareKeys hu] at hle
  refine hle.imp (fun hcount => ?_) (And.imp_right fun hkeys => lt_of_le_of_ne hkeys hne)
  cases direction <;> exact hcount

/-- Different values are listed under names of their own, each with its count. -/
theorem perm_termCounts (hfor : ∀ bucket ∈ buckets, ∃ v, kind.IsFor field hits bucket v)
    (hnodup : (kind.ofBuckets buckets).Nodup) :
    (Operation.termCounts (buckets.map TermBucket.view)).Perm
      ((kind.ofBuckets buckets).map fun v => (kind.name v, kind.count field hits v)) := by
  have hpairs : (buckets.map TermBucket.view).map (fun bucket => (bucket.keyText, bucket.count))
      = (kind.ofBuckets buckets).map fun v => (kind.name v, kind.count field hits v) := by
    rw [List.map_map]
    refine (map_ofBuckets hfor fun bucket v hv => ?_).symm
    rw [← hv.keyText_view, ← hv.count]
    rfl
  rw [Operation.termCounts, hpairs]
  refine Keyed.perm_ofList ?_
  rw [List.map_map]
  exact hnodup.map kind.name_injective

end ValueKind

/-- **The values that are listed come first**, if the buckets are sorted. -/
theorem Operation.exists_holdsTop {sorted : List TermBucket} (hcovers : kind.Covers field hits)
    (hperm : sorted.Perm (termBuckets field hits))
    (hsorted : sorted.Pairwise fun a b => (TermBucket.cmp (byCount direction) a b).isLE)
    (size : Nat) :
    ∃ shown cut, HoldsTop kind field size direction hits (termsOf field size hits sorted)
      shown cut := by
  have hfor : ∀ bucket ∈ sorted, ∃ v, kind.IsFor field hits bucket v :=
    fun _ hbucket => ValueKind.exists_isFor hcovers (hperm.mem_iff.mp hbucket)
  have hshown : ∀ bucket ∈ sorted.take size, ∃ v, kind.IsFor field hits bucket v :=
    fun bucket hbucket => hfor bucket (List.mem_of_mem_take hbucket)
  have hcut : ∀ bucket ∈ sorted.drop size, ∃ v, kind.IsFor field hits bucket v :=
    fun bucket hbucket => hfor bucket (List.mem_of_mem_drop hbucket)
  let shown := kind.ofBuckets (sorted.take size)
  let cut := kind.ofBuckets (sorted.drop size)
  have hvalues : (shown ++ cut).Perm (kind.distinct field hits) := by
    have happend : shown ++ cut = kind.ofBuckets (sorted.take size ++ sorted.drop size) :=
      List.filterMap_append.symm
    rw [happend, List.take_append_drop]
    exact ValueKind.perm_ofBuckets hcovers hperm
  obtain ⟨hnodup, -, hdisjoint⟩ :=
    List.nodup_append.mp (hvalues.nodup_iff.mpr (List.nodup_dedup _))
  refine ⟨shown, cut, hvalues, ?_, ValueKind.perm_termCounts hshown hnodup, ?_, ?_⟩
  · rw [ValueKind.length_ofBuckets hshown, List.length_take,
      ValueKind.length_buckets hcovers hperm]
  · intro v hv u hu
    obtain ⟨a, ha, hforv⟩ := ValueKind.exists_isFor_of_mem hshown hv
    obtain ⟨b, hb, hforu⟩ := ValueKind.exists_isFor_of_mem hcut hu
    rw [← List.take_append_drop size sorted] at hsorted
    have hle := (List.pairwise_append.mp hsorted).2.2 a ha b hb
    exact ValueKind.precedes_of_isLE hforv hforu hle (hdisjoint v hv u hu)
  · show ((sorted.drop size).map TermBucket.count).sum = _
    rw [ValueKind.map_ofBuckets hcut fun _ _ hv => hv.count.symm]

/-! ## Searches -/

namespace Searcher

/-- Values of one kind are sorted, whatever sorts them, so a search lists those that come first. -/
theorem exists_run_holdsTop {searcher : Searcher} {now : Instant} {scope : SearchScope}
    {q f : Clause} {plan : SearchPlan} (store : Store) (hplan : searcher.plan now scope none = .ok plan)
    (hquery : Query.parse scope.query = .ok q)
    (hfilter : Query.parse (scope.filter.getD "*") = .ok f) (size : Nat) (direction : Direction)
    (hcovers : kind.Covers field
      (store.hits plan.request.indices (q.selects f plan.window.wholeMillis))) :
    ∃ reported shown cut,
      (searcher.run store.backend now scope (.terms field size direction)).result = .ok reported
      ∧ HoldsTop kind field size direction
        (store.hits plan.request.indices (q.selects f plan.window.wholeMillis)) reported.result
        shown cut := by
  have htrans := ValueKind.trans_buckets hcovers (Operation.gives_nil store.sorter)
    (Operation.byCount direction)
  obtain ⟨reported, hrun, hresult⟩ :=
    exists_run_terms hplan hquery hfilter size (store.sorter.sorts htrans)
  obtain ⟨shown, cut, htop⟩ := Operation.exists_holdsTop hcovers (TermBucket.sort_perm _ _)
    (TermBucket.sort_pairwise htrans) size
  rw [← hresult] at htop
  exact ⟨reported, shown, cut, hrun, htop⟩

/-- **A search lists the first values.** If all values of the field in what a search finds are
texts, or all are integers of up to 53 bits, there is a result, and it lists as many of them as are
asked for, or all, each with the number of hits that have it. Every value that is listed comes
before every one that was cut off, by count and then in the order of the values, which for texts is
that of their bytes, and what is said of the others is the sum of their counts. -/
theorem terms_first_values (searcher : Searcher) (store : Store) (now : Instant)
    (scope : SearchScope) (q f : Clause) (field : String) (size : Nat) (direction : Direction)
    (hquery : Query.parse scope.query = .ok q)
    (hfilter : Query.parse (scope.filter.getD "*") = .ok f) :
    let outcome := (searcher.run store.backend now scope (.terms field size direction)).result
    match searcher.plan now scope none with
    | .error failure => outcome = .error failure.error
    | .ok plan =>
      let hits := store.hits plan.request.indices (q.selects f plan.window.wholeMillis)
      (ValueKind.texts.Covers field hits → ∃ reported shown cut, outcome = .ok reported
        ∧ HoldsTop ValueKind.texts field size direction hits reported.result shown cut
        ∧ ∀ v ∈ shown, ∀ u ∈ cut,
          ValueKind.texts.count field hits v = ValueKind.texts.count field hits u →
          v.toUTF8.data.toList < u.toUTF8.data.toList)
      ∧ (ValueKind.integers.Covers field hits → ∃ reported shown cut, outcome = .ok reported
        ∧ HoldsTop ValueKind.integers field size direction hits reported.result shown cut) := by
  intro outcome
  split
  · next failure hplan => exact run_of_plan_error hplan store.backend _
  · next plan hplan =>
    intro hits
    refine ⟨fun hcovers => ?_, fun hcovers => ?_⟩
    · obtain ⟨reported, shown, cut, hrun, htop⟩ :=
        exists_run_holdsTop store hplan hquery hfilter size direction hcovers
      exact ⟨reported, shown, cut, hrun, htop, fun v hv u hu hcount =>
        text_lt_iff_bytes_lt.mp ((htop.precedes v hv u hu).lt_of_count_eq hcount)⟩
    · exact exists_run_holdsTop store hplan hquery hfilter size direction hcovers

/-- Of two texts that are as frequent, one is cut off. -/
theorem terms_first_values_tied :
    let document (s : Json) : Document := ⟨.epoch, [("s", s)]⟩
    let store : Store := ⟨[("a_0", [document (.arr [.str "b", .str "a", .str "b"]),
      document (.str "a"), document (.str "b"), document (.str "c"), document .null])], [],
        .insertion 20⟩
    let searcher : Searcher :=
      ⟨⟨(⟨[]⟩ : RangeTable).lookup, lookupStream [], fun _ _ => .error .calendarEnd⟩, true⟩
    let scope : SearchScope := ⟨"*", none, .absolute .epoch .epoch, .pattern "a_0"⟩
    ∃ reported, (searcher.run store.backend .epoch scope (.terms "s" 1 .desc)).result = .ok reported
      ∧ ValueKind.texts.Covers "s" (store.documents "a_0")
      ∧ ∃ shown cut, shown.length = 1
        ∧ HoldsTop ValueKind.texts "s" 1 .desc (store.documents "a_0") reported.result
          shown cut := by
  intro document store searcher scope
  have hquery : Query.parse "*" = .ok (.term .all) := rfl
  have hplan : searcher.plan .epoch scope none
      = .ok ⟨⟨.epoch, .epoch⟩, ["a_0"], searcher.body scope ⟨.epoch, .epoch⟩ none⟩ := by cbv
  have hhits : store.hits ["a_0"] ((Clause.term .all).selects (.term .all)
      (⟨.epoch, .epoch⟩ : Window).wholeMillis) = store.documents "a_0" := by cbv
  have hcovers : ValueKind.texts.Covers "s" (store.documents "a_0") := by
    unfold ValueKind.Covers
    decide
  have hfirst := terms_first_values searcher store .epoch scope (.term .all) (.term .all) "s" 1
    .desc hquery hquery
  rw [hplan] at hfirst
  simp only [hhits] at hfirst
  obtain ⟨reported, shown, cut, hrun, htop, _⟩ := hfirst.1 hcovers
  refine ⟨reported, hrun, hcovers, shown, cut, ?_, htop⟩
  have hthree : (ValueKind.texts.distinct "s" (store.documents "a_0")).length = 3 := by
    decide +kernel
  rw [htop.length_shown, hthree]
  rfl

end Searcher

end LogSearch
