import Mathlib
import LogSearch.Proofs.Index.Order

/-!
# Ranges in another order

Of several ranges with one key, ordering keeps the one that stands first in the table. So the keys
that come out are those of the table, however it is arranged (`map_key_orderRanges_perm`), and two
tables give the same ranges exactly if they have the same first range of each key
(`orderRanges_eq_iff`).

Main statement: the arrangement of a table makes no difference exactly if it has no two different
ranges with one key (`orderRanges_perm_iff`).
-/

namespace LogSearch

variable {range : IndexRange} {ranges others : List IndexRange}

/-! ## Ascending lists -/

/-- **Lists that ascend and have the same members are the same.** -/
theorem eq_of_pairwise_asymm {α : Type} {R : α → α → Prop} {left right : List α}
    (hR : ∀ a b, R a b → ¬R b a) (hleft : left.Pairwise R) (hright : right.Pairwise R)
    (hmem : ∀ a, a ∈ left ↔ a ∈ right) : left = right := by
  have hne : ∀ {a b : α}, R a b → a ≠ b := by
    rintro a _ hab rfl
    exact hR a a hab hab
  have hperm : left.Perm right :=
    (List.perm_ext_iff_of_nodup (hleft.imp hne) (hright.imp hne)).mpr hmem
  exact hperm.eq_of_pairwise (fun a b _ _ hab hba => absurd hba (hR a b hab)) hleft hright

theorem Ascending.ext (h : Ascending ranges) (h' : Ascending others)
    (hmem : ∀ range, range ∈ ranges ↔ range ∈ others) : ranges = others :=
  eq_of_pairwise_asymm (fun _ _ => Std.OrientedCmp.not_lt_of_lt) h h' hmem

theorem Ascending.map_key_eq (h : Ascending ranges) (h' : Ascending others)
    (hmem : ∀ key, key ∈ ranges.map IndexRange.key ↔ key ∈ others.map IndexRange.key) :
    ranges.map IndexRange.key = others.map IndexRange.key := by
  have hkeys : ∀ {ranges}, Ascending ranges →
      (ranges.map IndexRange.key).Pairwise fun a b => compare a b = .lt :=
    fun h => List.pairwise_map.mpr h
  exact eq_of_pairwise_asymm (fun _ _ => Std.OrientedCmp.not_lt_of_lt) (hkeys h) (hkeys h') hmem

/-! ## Ordered tables -/

theorem mem_keys_orderRanges {key : RangeKey} :
    key ∈ (orderRanges ranges).map IndexRange.key ↔ key ∈ ranges.map IndexRange.key := by
  simp only [List.mem_map]
  constructor
  · rintro ⟨range, h, rfl⟩
    exact ⟨range, mem_of_mem_orderRanges h, rfl⟩
  · rintro ⟨range, h, rfl⟩
    exact exists_mem_orderRanges h

/-- **Tables with the same ranges are ordered to the same keys.** -/
theorem map_key_orderRanges_perm (h : ranges.Perm others) :
    (orderRanges ranges).map IndexRange.key = (orderRanges others).map IndexRange.key := by
  refine (ascending_orderRanges ranges).map_key_eq (ascending_orderRanges others) fun key => ?_
  rw [mem_keys_orderRanges, mem_keys_orderRanges, (h.map IndexRange.key).mem_iff]

/-- **Two tables are ordered to the same ranges exactly if they have the same first range of each
key.** -/
theorem orderRanges_eq_iff : orderRanges ranges = orderRanges others
    ↔ ∀ key, ranges.find? (fun range => range.key = key)
      = others.find? fun range => range.key = key := by
  constructor
  · intro h key
    rw [← find?_orderRanges, h, find?_orderRanges]
  · intro h
    refine (ascending_orderRanges ranges).ext (ascending_orderRanges others) fun range => ?_
    rw [mem_orderRanges_iff, mem_orderRanges_iff, h]

/-- Where one key has one range, it is the first of its key wherever it stands. -/
theorem find?_key_perm (h : ranges.Perm others)
    (hone : ∀ a ∈ ranges, ∀ b ∈ ranges, a.key = b.key → a = b) (key : RangeKey) :
    ranges.find? (fun range => range.key = key) = others.find? fun range => range.key = key := by
  cases hfind : ranges.find? fun range => range.key = key with
  | none =>
    rw [List.find?_eq_none] at hfind
    exact (List.find?_eq_none.mpr fun range hrange => hfind range (h.mem_iff.mpr hrange)).symm
  | some first =>
    have hmem := List.mem_of_find?_eq_some hfind
    have hkey : first.key = key := by simpa using List.find?_some hfind
    cases hfind' : others.find? fun range => range.key = key with
    | none =>
      rw [List.find?_eq_none] at hfind'
      exact absurd hkey (by simpa using hfind' first (h.mem_iff.mp hmem))
    | some other =>
      have hmem' := h.mem_iff.mpr (List.mem_of_find?_eq_some hfind')
      have hkey' : other.key = key := by simpa using List.find?_some hfind'
      rw [hone first hmem other hmem' (hkey.trans hkey'.symm)]

/-- A range can be put first, and is then the one of its key that is kept. -/
theorem exists_perm_keeping (h : range ∈ ranges) :
    ∃ others, ranges.Perm others ∧ range ∈ orderRanges others := by
  obtain ⟨before, behind, rfl⟩ := List.append_of_mem h
  exact ⟨range :: (before ++ behind), List.perm_middle, mem_orderRanges_iff.mpr (by simp)⟩

/-- **When the arrangement of a table makes no difference**: exactly if ranges with one key are the
same range. However it is arranged, the keys are the same; and one arrangement gives the same ranges
as another exactly if the first range of each key is the same. -/
theorem orderRanges_perm_iff (ranges : List IndexRange) :
    ((∀ others, ranges.Perm others → orderRanges others = orderRanges ranges)
      ↔ ∀ a ∈ ranges, ∀ b ∈ ranges, a.key = b.key → a = b)
    ∧ ∀ others, ranges.Perm others →
      (orderRanges others).map IndexRange.key = (orderRanges ranges).map IndexRange.key
      ∧ (orderRanges others = orderRanges ranges
        ↔ ∀ key, others.find? (fun range => range.key = key)
          = ranges.find? fun range => range.key = key) := by
  refine ⟨⟨fun hsame a ha b hb hkey => ?_, fun hone others hperm => ?_⟩,
    fun others hperm => ⟨map_key_orderRanges_perm hperm.symm, orderRanges_eq_iff⟩⟩
  · -- each of the two is kept in some arrangement, and there is one place for their key
    obtain ⟨left, hleft, hkept⟩ := exists_perm_keeping ha
    obtain ⟨right, hright, hkept'⟩ := exists_perm_keeping hb
    rw [hsame left hleft] at hkept
    rw [hsame right hright] at hkept'
    have hfind := (ascending_orderRanges ranges).find?_key hkept
    rw [hkey, (ascending_orderRanges ranges).find?_key hkept'] at hfind
    exact (Option.some.inj hfind).symm
  · exact orderRanges_eq_iff.mpr fun key => (find?_key_perm hperm hone key).symm

/-- Two ranges that begin together, with different names. -/
theorem orderRanges_perm_iff_named :
    let range (name : String) : IndexRange := .latest name .epoch
    [range "b_0", range "a_0"].Perm [range "a_0", range "b_0"]
      ∧ orderRanges [range "a_0", range "b_0"] = orderRanges [range "b_0", range "a_0"] := by
  intro range
  have hperm : [range "b_0", range "a_0"].Perm [range "a_0", range "b_0"] := List.Perm.swap ..
  refine ⟨hperm, (orderRanges_perm_iff [range "b_0", range "a_0"]).1.mpr ?_ _ hperm⟩
  decide

/-- Of two ranges of one index that begin together, the one that stands first is kept. -/
theorem orderRanges_perm_fails :
    let later : Instant := ⟨1, 0, 0, by decide, by decide, by decide, by decide, by decide⟩
    let latest : Instant := ⟨2, 0, 0, by decide, by decide, by decide, by decide, by decide⟩
    ∃ short long, IndexRange.bounded "a_0" later later .epoch 0 = .ok short
      ∧ IndexRange.bounded "a_0" later latest .epoch 0 = .ok long
      ∧ [short, long].Perm [long, short]
      ∧ orderRanges [short, long] ≠ orderRanges [long, short] := by
  intro later latest
  let short : IndexRange := ⟨"a_0", .bounded later later (by decide), .epoch, 0, none⟩
  let long : IndexRange := ⟨"a_0", .bounded later latest (by decide), .epoch, 0, none⟩
  refine ⟨short, long, rfl, rfl, List.Perm.swap .., fun hsame => ?_⟩
  have hfirst := orderRanges_eq_iff.mp hsame short.key
  have hshort : some short = some long := hfirst
  exact absurd (Option.some.inj hshort) (by decide)

end LogSearch
