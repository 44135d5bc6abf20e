import LogSearch.Index.Stream
import LogSearch.Proofs.Query.Reading
import LogSearch.Proofs.Text.LastMark

/-!
# Which set an index belongs to

An index set takes the indices named by its stem, an underscore and a number. A number has no
underscore, so the stem is what stands before the last underscore of a name, whatever underscores and
digits the stem itself has.

Main statement: these are exactly the indices of a set, and no index belongs to two sets
(`IndexSet.manages_numbered`).
-/

namespace LogSearch

/-- Digits, at least one. -/
def IsNumber (text : String) : Prop := text ≠ "" ∧ ∀ c ∈ text.toList, c.isDigit = true

theorem IsNumber.underscore_not_mem {number : String} (h : IsNumber number) :
    '_' ∉ number.toList :=
  fun hmem => absurd (h.2 '_' hmem) (by decide)

namespace IndexSet

variable {set other : IndexSet} {index number : String}

/-- The name of an index, character by character. -/
theorem eq_numbered_iff {stem : String} : index = stem ++ "_" ++ number
    ↔ index.toList = stem.toList ++ '_' :: number.toList := by
  rw [← String.toList_inj, String.toList_append, String.toList_append, List.append_assoc]
  rfl

/-- **What the indices of a set are named.** -/
theorem manages_iff : set.manages index = true
    ↔ ∃ number, IsNumber number ∧ index = set.stem ++ "_" ++ number := by
  have hfront : ∀ rest : List Char, stripFront? (set.stem.toList ++ ['_']) index.toList = some rest
      ↔ index = set.stem ++ "_" ++ String.ofList rest := by
    intro rest
    rw [eq_numbered_iff, Query.stripFront?_eq_some, List.append_assoc, String.toList_ofList]
    rfl
  rw [manages]
  constructor
  · intro h
    split at h
    · next rest hrest =>
      rw [Bool.and_eq_true, Bool.not_eq_true', List.isEmpty_eq_false_iff, List.all_eq_true] at h
      refine ⟨String.ofList rest, ⟨?_, ?_⟩, (hfront rest).mp hrest⟩
      · simpa [← String.toList_inj] using h.1
      · simpa using h.2
    · cases h
  · rintro ⟨number, ⟨hne, hdigits⟩, hindex⟩
    have hrest : stripFront? (set.stem.toList ++ ['_']) index.toList = some number.toList :=
      (hfront number.toList).mpr (by rw [String.ofList_toList, hindex])
    rw [hrest]
    simpa using ⟨hne, hdigits⟩

/-- Sets with a common index have the same stem: it stands before the last underscore. -/
theorem stem_eq_of_manages (h : set.manages index = true) (hother : other.manages index = true) :
    set.stem = other.stem := by
  obtain ⟨number, hnumber, hindex⟩ := manages_iff.mp h
  obtain ⟨number', hnumber', hindex'⟩ := manages_iff.mp hother
  rw [eq_numbered_iff] at hindex hindex'
  have hparts := append_cons_inj_of_not_mem hnumber.underscore_not_mem hnumber'.underscore_not_mem
    (hindex.symm.trans hindex')
  exact String.toList_inj.mp hparts.1

/-- **An index belongs to the set whose stem stands before its number, and to no other set.** -/
theorem manages_numbered (index : String) :
    (∀ stem : String, (IndexSet.mk stem).manages index = true
        ↔ ∃ number, IsNumber number ∧ index = stem ++ "_" ++ number)
      ∧ ∀ stem other : String, (IndexSet.mk stem).manages index = true →
        (IndexSet.mk other).manages index = true → stem = other :=
  ⟨fun _ => manages_iff, fun _ _ => stem_eq_of_manages⟩

/-- A stem that ends in a number, and the stem before it. -/
theorem manages_numbered_nested :
    (∃ number, IsNumber number ∧ "a_1_2" = "a_1" ++ "_" ++ number)
      ∧ (IndexSet.mk "a_1").manages "a_1_2" = true ∧ (IndexSet.mk "a").manages "a_1_2" = false := by
  have hmanages : (IndexSet.mk "a_1").manages "a_1_2" = true := by decide
  obtain ⟨hnumbered, hunique⟩ := manages_numbered "a_1_2"
  refine ⟨(hnumbered "a_1").mp hmanages, hmanages, Bool.eq_false_iff.mpr fun hfront => ?_⟩
  exact absurd (hunique "a_1" "a" hmanages hfront) (by decide)

end IndexSet

end LogSearch
