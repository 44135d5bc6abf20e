import Mathlib
import LogSearch.Text.Lowercase

/-!
# Texts in any letter case

A text becomes a plain one, made of small letters of ASCII and digits, by lower case exactly if its
characters are those of the plain text in some letter case, one for one (`lowercase_eq_iff`). Besides
the capitals of ASCII only one character of the whole set is such a form, the sign of the kelvin, which
is a capital K (`IsCaseOf`); where lower case depends on the characters around or gives two for one,
the outcome is not plain.
-/

namespace LogSearch

/-- A small letter of ASCII or a digit. -/
def IsPlain (c : Char) : Prop := c.isLower = true ∨ c.isDigit = true

/-- Whether a character is a plain one in some letter case. -/
def IsCaseOf (c plain : Char) : Prop := c.toLower = plain ∨ c = '\u212a' ∧ plain = 'k'

variable {c d plain : Char}

instance (c : Char) : Decidable (IsPlain c) := inferInstanceAs (Decidable (_ ∨ _))

instance (c plain : Char) : Decidable (IsCaseOf c plain) := inferInstanceAs (Decidable (_ ∨ _))

theorem IsPlain.bounds (h : IsPlain c) : 0 < c.toNat ∧ c.toNat < 0x80 := by
  simp only [IsPlain, Char.isLower, Char.isDigit, ge_iff_le, Bool.and_eq_true, decide_eq_true_eq,
    UInt32.le_iff_toNat_le, Char.reduceVal, UInt32.reduceToNat] at h
  change 0 < c.val.toNat ∧ c.val.toNat < 0x80
  omega

theorem toLower_of_ge (h : 0x80 ≤ c.toNat) : c.toLower = c := by
  refine Char.toLower_eq_of_not_isUpper fun hupper => ?_
  simp only [Char.isUpper, ge_iff_le, decide_eq_true_eq, UInt32.le_iff_toNat_le, Char.reduceVal,
    UInt32.reduceToNat] at hupper
  change 0x80 ≤ c.val.toNat at h
  omega

/-- A character past ASCII is a plain one in another case only if it is the sign of the kelvin. -/
theorem isCaseOf_of_ge (h : 0x80 ≤ c.toNat) (hplain : IsPlain plain) :
    IsCaseOf c plain ↔ c = '\u212a' ∧ plain = 'k' := by
  rw [IsCaseOf, toLower_of_ge h]
  refine or_iff_right ?_
  rintro rfl
  have hlt := hplain.bounds.2
  omega

/-! ## The table -/

/-- Past ASCII a step of the table leads into ASCII for the sign of the kelvin only. -/
theorem lowerSteps_shift : ∀ entry ∈ Casing.lowerSteps, entry.2.1 < 0x80
    ∨ 0x80 ≤ entry.1 + entry.2.2.2 ∨ entry.1 = 0x212a ∧ entry.2.1 = 0x212a := by
  decide +kernel

theorem lowerCode_ge {n : Nat} (h : 0x80 ≤ n) (hne : n ≠ 0x212a) : 0x80 ≤ lowerCode n := by
  unfold lowerCode
  split
  · next first last step shift hfind =>
    have hentry := lowerSteps_shift _ (List.mem_of_find?_eq_some hfind)
    have hrange := List.find?_some hfind
    simp only [Bool.and_eq_true, decide_eq_true_eq] at hrange
    simp only at hentry
    omega
  · exact h

/-- The lower-case form of a character, the dotted capital I apart, is a plain one if the character is
that one in some letter case. -/
theorem lowerChar_eq (hne : c ≠ 'İ') :
    ∃ lower, lowerChar c = [lower] ∧ ∀ plain, IsPlain plain → (lower = plain ↔ IsCaseOf c plain) := by
  unfold lowerChar
  by_cases hascii : c.toNat < 0x80
  · refine ⟨c.toLower, if_pos hascii, fun plain _ => (or_iff_left ?_).symm⟩
    rintro ⟨rfl, -⟩
    exact absurd hascii (by decide)
  · refine ⟨Char.ofNat (lowerCode c.toNat), by rw [if_neg hascii, if_neg hne], ?_⟩
    intro plain hplain
    rw [isCaseOf_of_ge (Nat.not_lt.mp hascii) hplain]
    by_cases hkelvin : c = '\u212a'
    · have hlower : Char.ofNat (lowerCode c.toNat) = 'k' := by
        rw [hkelvin]
        decide +kernel
      rw [hlower]
      exact ⟨fun h => ⟨hkelvin, h.symm⟩, fun h => h.2.symm⟩
    · have hcode : 0x80 ≤ lowerCode c.toNat := by
        refine lowerCode_ge (Nat.not_lt.mp hascii) fun h => hkelvin ?_
        exact Char.toNat_inj.mp h
      refine iff_of_false ?_ fun h => hkelvin h.1
      -- where the code point is none of a character, the character is that of zero
      rintro rfl
      have hbounds := hplain.bounds
      rw [Char.toNat_ofNat] at hbounds
      split at hbounds <;> omega

/-! ## Texts -/

/-- Either small sigma lies past ASCII. -/
theorem lowerFrom_sigma (before cs : List Char) :
    ∃ lower, lowerFrom before ('Σ' :: cs) = lower :: lowerFrom ('Σ' :: before) cs
      ∧ 0x80 ≤ lower.toNat := by
  rw [lowerFrom]
  by_cases hfinal : (startsCased before && !startsCased cs) = true
  · exact ⟨'ς', by rw [if_pos rfl, if_pos hfinal]; rfl, by decide⟩
  · exact ⟨'σ', by rw [if_pos rfl, if_neg hfinal]; rfl, by decide⟩

theorem lowerFrom_cons (hne : c ≠ 'Σ') (before cs : List Char) :
    lowerFrom before (c :: cs) = lowerChar c ++ lowerFrom (c :: before) cs := by
  rw [lowerFrom, if_neg hne]

theorem lowerFrom_cons_iff {before cs ds : List Char} (hd : IsPlain d) (hds : ∀ e ∈ ds, IsPlain e) :
    lowerFrom before (c :: cs) = d :: ds ↔ IsCaseOf c d ∧ lowerFrom (c :: before) cs = ds := by
  by_cases hsigma : c = 'Σ'
  · obtain ⟨lower, hlower, hge⟩ := lowerFrom_sigma before cs
    rw [hsigma, hlower, isCaseOf_of_ge (by decide) hd, List.cons.injEq]
    refine iff_of_false ?_ fun h => absurd h.1.1 (by decide)
    rintro ⟨rfl, -⟩
    have hlt := hd.bounds.2
    omega
  · rw [lowerFrom_cons hsigma]
    by_cases hdotted : c = 'İ'
    · rw [hdotted, isCaseOf_of_ge (by decide) hd]
      refine iff_of_false ?_ fun h => absurd h.1.1 (by decide)
      -- the dot above is left over
      intro h
      obtain ⟨-, rfl⟩ := List.cons.inj h
      have hlt := (hds '\u0307' List.mem_cons_self).bounds.2
      exact absurd hlt (by decide)
    · obtain ⟨lower, hlower, hplain⟩ := lowerChar_eq hdotted
      rw [hlower, List.singleton_append, List.cons.injEq, hplain d hd]

theorem lowerFrom_ne_nil (before : List Char) (c : Char) (cs : List Char) :
    lowerFrom before (c :: cs) ≠ [] := by
  by_cases hsigma : c = 'Σ'
  · obtain ⟨lower, hlower, -⟩ := lowerFrom_sigma before cs
    rw [hsigma, hlower]
    exact List.cons_ne_nil _ _
  · rw [lowerFrom_cons hsigma]
    by_cases hdotted : c = 'İ'
    · rw [hdotted]
      exact List.cons_ne_nil _ _
    · obtain ⟨lower, hlower, -⟩ := lowerChar_eq hdotted
      rw [hlower]
      exact List.cons_ne_nil _ _

/-- **A text is a plain one in lower case exactly if it is that one in some letter case.** -/
theorem lowercase_eq_iff {cs plain : List Char} (hplain : ∀ c ∈ plain, IsPlain c) :
    lowercase cs = plain ↔ List.Forall₂ IsCaseOf cs plain := by
  have hfrom : ∀ before, lowerFrom before cs = plain ↔ List.Forall₂ IsCaseOf cs plain := by
    induction cs generalizing plain with
    | nil =>
      intro before
      rw [lowerFrom, List.forall₂_nil_left_iff, eq_comm]
    | cons c cs ih =>
      intro before
      cases plain with
      | nil => simp [lowerFrom_ne_nil]
      | cons d ds =>
        obtain ⟨hd, hds⟩ := List.forall_mem_cons.mp hplain
        rw [lowerFrom_cons_iff hd hds, List.forall₂_cons, ih hds]
  exact hfrom []

end LogSearch
