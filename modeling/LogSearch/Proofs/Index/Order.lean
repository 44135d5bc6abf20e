import LogSearch.Index.Order
import LogSearch.Proofs.Time.Order

/-!
# What ordering keeps

Ordering index ranges sorts them by key and then keeps the first of each key. Main statements: what
comes out ascends (`ascending_orderRanges`) and is the first range of its key
(`mem_orderRanges_iff`), so the names are the same (`mem_names_orderRanges`).
-/

namespace LogSearch

/-! ## Keys -/

namespace RangeKey

instance : Ord RangeKey := ⟨cmp⟩

/-- Keys compare like pairs. -/
theorem compare_eq_lex (a b : RangeKey) :
    compare a b = lexOrd.compare (a.start, a.name) (b.start, b.name) := rfl

instance : Std.LawfulEqOrd RangeKey where
  compare_self {a} := by
    rw [compare_eq_lex]
    exact Std.ReflCmp.compare_self
  eq_of_compare {a b} h := by
    rw [compare_eq_lex] at h
    have hpair := Std.LawfulEqCmp.eq_of_compare h
    cases a
    cases b
    simp_all

instance : Std.TransOrd RangeKey where
  eq_swap {a b} := by
    rw [compare_eq_lex, compare_eq_lex b]
    exact Std.OrientedCmp.eq_swap
  isLE_trans {a b c} h h' := by
    rw [compare_eq_lex] at *
    exact Std.TransCmp.isLE_trans h h'

variable {a b : RangeKey}

theorem le_iff_isLE : a.le b = true ↔ (compare a b).isLE = true := by
  rw [Ordering.isLE_iff_ne_gt]
  exact bne_iff_ne

/-- One key is before another if it is not after it and not the same. -/
theorem lt_of_le_of_ne (h : a.le b = true) (hne : a ≠ b) : compare a b = .lt := by
  rw [le_iff_isLE] at h
  cases hcmp : compare a b with
  | lt => rfl
  | eq => exact absurd (Std.compare_eq_iff_eq.mp hcmp) hne
  | gt =>
    rw [hcmp] at h
    cases h

end RangeKey

namespace IndexRange

theorem key_le_trans (a b c : IndexRange) (h : a.key.le b.key = true) (h' : b.key.le c.key = true) :
    a.key.le c.key = true := by
  rw [RangeKey.le_iff_isLE] at *
  exact Std.TransOrd.isLE_trans h h'

theorem key_le_total (a b : IndexRange) : (a.key.le b.key || b.key.le a.key) = true := by
  rw [Bool.or_eq_true, RangeKey.le_iff_isLE, RangeKey.le_iff_isLE,
    Std.OrientedOrd.eq_swap (a := b.key)]
  cases compare a.key b.key <;> simp

end IndexRange

/-- The keys ascend, so each comes once. -/
def Ascending (ranges : List IndexRange) : Prop :=
  ranges.Pairwise fun a b => compare a.key b.key = .lt

variable {range last : IndexRange} {ranges rest : List IndexRange}

/-- In an ascending list a range is found under its key. -/
theorem Ascending.find?_key (h : Ascending ranges) (hmem : range ∈ ranges) :
    ranges.find? (fun other => other.key = range.key) = some range := by
  induction ranges with
  | nil => cases hmem
  | cons first ranges ih =>
    obtain ⟨hfirst, hrest⟩ := List.pairwise_cons.mp h
    rcases List.mem_cons.mp hmem with rfl | hmem
    · simp
    · have hne : first.key ≠ range.key := by
        intro heq
        have hlt := hfirst range hmem
        rw [heq, Std.ReflOrd.compare_self] at hlt
        cases hlt
      rw [List.find?_cons_of_neg (by simpa using hne)]
      exact ih hrest hmem

/-! ## Repeated keys -/

/-- Where keys do not descend, dropping repeats makes them ascend. -/
theorem ascending_dropRepeats
    (h : (last :: rest).Pairwise fun a b => a.key.le b.key = true) :
    Ascending (last :: dropRepeats last rest) := by
  fun_induction dropRepeats last rest with
  | case1 last => exact List.pairwise_singleton _ _
  | case2 last first rest _ ih => exact ih (h.sublist (by simp))
  | case3 last first rest hne ih =>
    obtain ⟨hlast, hrest⟩ := List.pairwise_cons.mp h
    have hascending := ih hrest
    have hlt := RangeKey.lt_of_le_of_ne (hlast first List.mem_cons_self) (Ne.symm hne)
    refine List.pairwise_cons.mpr ⟨fun later hlater => ?_, hascending⟩
    rcases List.mem_cons.mp hlater with rfl | hlater
    · exact hlt
    · exact Std.TransCmp.lt_trans hlt ((List.pairwise_cons.mp hascending).1 later hlater)

/-- What is dropped stands behind a range with its key. -/
theorem find?_dropRepeats (key : RangeKey) (last : IndexRange) (rest : List IndexRange) :
    (last :: dropRepeats last rest).find? (fun range => range.key = key)
      = (last :: rest).find? fun range => range.key = key := by
  fun_induction dropRepeats last rest with
  | case1 => rfl
  | case2 last first rest hkey ih =>
    rw [ih]
    by_cases h : last.key = key <;> simp [hkey, h]
  | case3 last first rest _ ih =>
    rw [List.find?_cons, ih]
    rfl

/-! ## Ordering -/

/-- **Ordered ranges ascend.** -/
theorem ascending_orderRanges (ranges : List IndexRange) : Ascending (orderRanges ranges) := by
  have hsorted := List.pairwise_mergeSort IndexRange.key_le_trans IndexRange.key_le_total ranges
  rw [orderRanges]
  split
  · exact List.Pairwise.nil
  · next first rest hsort =>
    rw [hsort] at hsorted
    exact ascending_dropRepeats hsorted

/-- Sorting leaves the ranges of one key as they stand. -/
theorem filter_mergeSort (key : RangeKey) (ranges : List IndexRange) :
    (ranges.mergeSort fun a b => a.key.le b.key).filter (fun range => range.key = key)
      = ranges.filter fun range => range.key = key := by
  have hsame : (ranges.filter fun range => range.key = key).Pairwise
      fun a b => a.key.le b.key = true := by
    refine List.pairwise_of_forall_mem_list fun a ha b hb => ?_
    have ha : a.key = key := by simpa using (List.mem_filter.mp ha).2
    have hb : b.key = key := by simpa using (List.mem_filter.mp hb).2
    rw [ha, hb, RangeKey.le_iff_isLE, Std.ReflOrd.compare_self]
    rfl
  -- they are a sublist of the sorted ranges, and there are no others
  have hsublist : (ranges.filter fun range => range.key = key).Sublist
      (ranges.mergeSort fun a b => a.key.le b.key) :=
    List.sublist_mergeSort IndexRange.key_le_trans IndexRange.key_le_total hsame
      List.filter_sublist
  have hfilter := hsublist.filter fun range => range.key = key
  rw [List.filter_filter] at hfilter
  simp only [Bool.and_self] at hfilter
  have hperm := (List.mergeSort_perm ranges fun a b => a.key.le b.key).filter
    fun range => range.key = key
  exact (hfilter.eq_of_length hperm.length_eq.symm).symm

/-- **The first range of each key is kept.** -/
theorem find?_orderRanges (key : RangeKey) (ranges : List IndexRange) :
    (orderRanges ranges).find? (fun range => range.key = key)
      = ranges.find? fun range => range.key = key := by
  rw [← List.head?_filter (l := ranges), ← filter_mergeSort, List.head?_filter, orderRanges]
  split
  · next hsort => rw [hsort]
  · next first rest hsort => rw [hsort, find?_dropRepeats]

/-- **What comes out is the first range of its key.** -/
theorem mem_orderRanges_iff : range ∈ orderRanges ranges
    ↔ ranges.find? (fun other => other.key = range.key) = some range := by
  rw [← find?_orderRanges]
  exact ⟨(ascending_orderRanges ranges).find?_key, List.mem_of_find?_eq_some⟩

/-- **Ordering adds no range.** -/
theorem mem_of_mem_orderRanges (h : range ∈ orderRanges ranges) : range ∈ ranges :=
  List.mem_of_find?_eq_some (mem_orderRanges_iff.mp h)

/-- **Ordering loses no key.** -/
theorem exists_mem_orderRanges (h : range ∈ ranges) :
    ∃ kept ∈ orderRanges ranges, kept.key = range.key := by
  cases hfind : (orderRanges ranges).find? fun other => other.key = range.key with
  | some kept =>
    exact ⟨kept, List.mem_of_find?_eq_some hfind, by simpa using List.find?_some hfind⟩
  | none =>
    rw [find?_orderRanges, List.find?_eq_none] at hfind
    simpa using hfind range h

/-- **The names of ordered ranges are the same.** -/
theorem mem_names_orderRanges {name : String} :
    name ∈ (orderRanges ranges).map IndexRange.name ↔ name ∈ ranges.map IndexRange.name := by
  simp only [List.mem_map]
  constructor
  · rintro ⟨range, h, rfl⟩
    exact ⟨range, mem_of_mem_orderRanges h, rfl⟩
  · rintro ⟨range, h, rfl⟩
    obtain ⟨kept, hkept, hkey⟩ := exists_mem_orderRanges h
    exact ⟨kept, hkept, congrArg RangeKey.name hkey⟩

end LogSearch
