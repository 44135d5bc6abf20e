import Mathlib

/-!
# Texts in order

Texts are compared character by character. The UTF-8 form of a character begins with more bits the
longer it is, and is written from the highest bits on, so that a smaller character has the smaller
bytes (`utf8EncodeChar_append_lt`), whatever comes after it.

Main statement: comparing texts is comparing their bytes (`text_lt_iff_bytes_lt`).
-/

namespace LogSearch

/-! ## Characters -/

theorem code_lt (c : Char) : c.val.toNat < 0x110000 := by
  obtain h | h := c.valid
  · exact Nat.lt_of_lt_of_le h (by decide)
  · exact h.2

/-- Numbers of four digits to the base 64 are compared from the first digit on. -/
theorem digits_lt {m n : Nat} (h : m < n) (hn : n < 0x110000) :
    m / 262144 % 8 < n / 262144 % 8 ∨ m / 262144 % 8 = n / 262144 % 8 ∧
      (m / 4096 % 64 < n / 4096 % 64 ∨ m / 4096 % 64 = n / 4096 % 64 ∧
        (m / 64 % 64 < n / 64 % 64 ∨ m / 64 % 64 = n / 64 % 64 ∧ m % 64 < n % 64)) := by
  have hthird : ∀ k : Nat, k / 4096 = k / 64 / 64 := fun k =>
    (Nat.div_div_eq_div_mul k 64 64).symm
  have hfourth : ∀ k : Nat, k / 262144 = k / 64 / 64 / 64 := fun k => by
    rw [Nat.div_div_eq_div_mul, Nat.div_div_eq_div_mul]
  rw [hthird m, hthird n, hfourth m, hfourth n]
  omega

/-- **A smaller character has the smaller bytes**, whatever comes after it. -/
theorem utf8EncodeChar_append_lt {c d : Char} (h : c < d) (rest others : List UInt8) :
    String.utf8EncodeChar c ++ rest < String.utf8EncodeChar d ++ others := by
  have hlt : c.val.toNat < d.val.toNat := h
  have hdigits := digits_lt hlt (code_lt d)
  have hcode := code_lt d
  unfold String.utf8EncodeChar
  dsimp only
  generalize c.val.toNat = m at *
  generalize d.val.toNat = n at *
  -- one case for each two lengths
  split_ifs
  all_goals
    simp (disch := omega) only [List.cons_append, List.nil_append, List.cons_lt_cons_iff,
      UInt8.lt_iff_toNat_lt, ← UInt8.toNat_inj, UInt8.toNat_ofNat', Nat.mod_eq_of_lt]
    omega

/-! ## Texts -/

theorem flatMap_utf8EncodeChar_lt {cs ds : List Char} (h : cs < ds) :
    cs.flatMap String.utf8EncodeChar < ds.flatMap String.utf8EncodeChar := by
  induction cs generalizing ds with
  | nil =>
    cases ds with
    | nil => exact absurd h (List.lt_irrefl _)
    | cons d ds =>
      obtain ⟨first, rest, hbytes⟩ :=
        List.exists_cons_of_ne_nil (String.utf8EncodeChar_ne_nil (c := d))
      rw [List.flatMap_cons, hbytes]
      exact List.nil_lt_cons _ _
  | cons c cs ih =>
    cases ds with
    | nil => exact absurd h (List.not_lt_nil _)
    | cons d ds =>
      rw [List.flatMap_cons, List.flatMap_cons]
      obtain hlt | ⟨rfl, hrest⟩ := List.cons_lt_cons_iff.mp h
      · exact utf8EncodeChar_append_lt hlt _ _
      · exact List.append_left_lt (ih hrest)

theorem toList_toUTF8 (text : String) :
    text.toUTF8.data.toList = text.toList.flatMap String.utf8EncodeChar := by
  have hbytes : text.toList.utf8Encode = text.toUTF8 := by
    rw [String.toUTF8_eq_toByteArray, String.utf8Encode_toList]
  rw [← hbytes, List.utf8Encode]
  simp

/-- **Texts are in the order of their bytes.** -/
theorem text_lt_iff_bytes_lt {text other : String} :
    text < other ↔ text.toUTF8.data.toList < other.toUTF8.data.toList := by
  rw [String.lt_iff_toList_lt, toList_toUTF8, toList_toUTF8]
  constructor
  · exact flatMap_utf8EncodeChar_lt
  · intro h
    obtain hlt | heq | hgt := lt_trichotomy text.toList other.toList
    · exact hlt
    · rw [heq] at h
      exact absurd h (List.lt_irrefl _)
    · exact absurd h (List.lt_asymm (flatMap_utf8EncodeChar_lt hgt))

end LogSearch
