import LogSearch.Number.Binary64
import Mathlib

/-!
# Exact sums of natural numbers

Every natural number below `2^53` is a member of the format (`toRat?_ofNat`), and so is the sum of
two of them as long as it stays there. Rounding then has nothing to do, and adding them up gives
the sum as it is (`sum_ofNat`).

A natural number fills the mantissa by a shift (`exists_ofNat`). Which shift it is does not matter
for a sum, since numerator and denominator may be shifted together (`round_shift`).
-/

namespace LogSearch.Binary64

/-- The number that a member of the format stands for. -/
def toRat? : Binary64 → Option ℚ
  | .finite negative m q => some ((if negative then -1 else 1) * m * 2 ^ q)
  | _ => none

/-! ## Rounding -/

theorem roundDivEven_mul (m : Nat) {den : Nat} (hden : 0 < den) :
    roundDivEven (m * den) den = m := by
  simp [roundDivEven, hden]

/-- A number below `2^53` gets the exponent at which its first bit is the first of the mantissa. -/
theorem chooseExponent_shift {n : Nat} (hpos : 0 < n) (hlt : n < 2 ^ 53) (k : Nat) :
    chooseExponent (n * 2 ^ k) (2 ^ k) = -((52 - n.log2 : Nat) : Int) := by
  have hlog : n.log2 < 53 := (Nat.log2_lt (by omega)).mpr hlt
  have hshift : (n * 2 ^ k).log2 = n.log2 + k := by
    rw [Nat.log2_eq_iff (by positivity), Nat.pow_add, Nat.add_right_comm, Nat.pow_add]
    exact ⟨Nat.mul_le_mul_right _ (Nat.log2_self_le (by omega)),
      Nat.mul_lt_mul_of_pos_right Nat.lt_log2_self (Nat.two_pow_pos k)⟩
  have hguess : max (((n * 2 ^ k).log2 : Int) - (2 ^ k).log2 - 53) minExponent
      = -((53 - n.log2 : Nat) : Int) := by
    rw [hshift, Nat.log2_two_pow, minExponent]
    omega
  -- one exponent below, the number has a bit more than the mantissa holds
  have hlong : 2 ^ 53 ≤ n * 2 ^ k * 2 ^ (53 - n.log2) / 2 ^ k := by
    rw [Nat.mul_right_comm, Nat.mul_div_cancel _ (Nat.two_pow_pos k)]
    calc 2 ^ 53 = 2 ^ n.log2 * 2 ^ (53 - n.log2) := by rw [← Nat.pow_add]; congr 1; omega
      _ ≤ n * 2 ^ (53 - n.log2) := Nat.mul_le_mul_right _ (Nat.log2_self_le (by omega))
  have hscaled : scaled (n * 2 ^ k) (2 ^ k) (-((53 - n.log2 : Nat) : Int))
      = (n * 2 ^ k * 2 ^ (53 - n.log2), 2 ^ k) := by
    rw [scaled, if_pos (by omega), Int.neg_neg, Int.toNat_natCast, Nat.pow_eq]
  rw [chooseExponent, hguess, hscaled]
  simp only [Nat.pow_eq]
  rw [if_neg (by omega)]
  omega

/-- Numerator and denominator may be shifted together: the number fills the mantissa. -/
theorem round_shift_of_pos {n : Nat} (hpos : 0 < n) (hlt : n < 2 ^ 53) (k : Nat) :
    round false (n * 2 ^ k) (2 ^ k)
      = .finite false (n * 2 ^ (52 - n.log2)) (-((52 - n.log2 : Nat) : Int)) := by
  have hnum : n * 2 ^ k ≠ 0 := by positivity
  have hscaled : scaled (n * 2 ^ k) (2 ^ k) (-((52 - n.log2 : Nat) : Int))
      = (n * 2 ^ (52 - n.log2) * 2 ^ k, 2 ^ k) := by
    rw [scaled, Int.neg_neg, Int.toNat_natCast, Nat.pow_eq, Nat.mul_right_comm]
    split
    · rfl
    · have hzero : 52 - n.log2 = 0 := by omega
      simp [hzero]
  have hshort : n * 2 ^ (52 - n.log2) < 2 ^ 53 := by
    have hlog : n.log2 < 53 := (Nat.log2_lt (by omega)).mpr hlt
    calc n * 2 ^ (52 - n.log2) < 2 ^ (n.log2 + 1) * 2 ^ (52 - n.log2) :=
          Nat.mul_lt_mul_of_pos_right Nat.lt_log2_self (Nat.two_pow_pos _)
      _ = 2 ^ 53 := by rw [← Nat.pow_add]; congr 1; omega
  rw [round, if_neg hnum, chooseExponent_shift hpos hlt]
  have hexponent : ¬ maxExponent < -((52 - n.log2 : Nat) : Int) := by
    rw [maxExponent]
    omega
  simp only [hscaled, roundDivEven_mul _ (Nat.two_pow_pos k), normalize, Nat.pow_eq]
  rw [if_neg hshort.ne]
  exact if_neg hexponent

theorem round_shift {n : Nat} (hlt : n < 2 ^ 53) (k : Nat) :
    round false (n * 2 ^ k) (2 ^ k) = ofNat n := by
  obtain rfl | hpos := Nat.eq_zero_or_pos n
  · simp [round, ofNat]
  · have hone := round_shift_of_pos hpos hlt 0
    rw [Nat.pow_zero, Nat.mul_one] at hone
    rw [round_shift_of_pos hpos hlt, ofNat, hone]

/-- A natural number below `2^53` is a mantissa that was shifted. -/
theorem exists_ofNat {n : Nat} (hlt : n < 2 ^ 53) :
    ∃ k : Nat, ofNat n = .finite false (n * 2 ^ k) (-k) := by
  obtain rfl | hpos := Nat.eq_zero_or_pos n
  · exact ⟨1074, by rw [Nat.zero_mul]; rfl⟩
  · exact ⟨52 - n.log2, by rw [← round_shift hlt 0, round_shift_of_pos hpos hlt]⟩

/-- **A natural number below `2^53` is a member of the format.** -/
theorem toRat?_ofNat {n : Nat} (hlt : n < 2 ^ 53) : (ofNat n).toRat? = some (n : ℚ) := by
  obtain ⟨k, hk⟩ := exists_ofNat hlt
  rw [hk, toRat?]
  have hpow : (2 : ℚ) ^ k ≠ 0 := by positivity
  simp [hpow]

/-! ## Sums -/

theorem signedAt_shift (m : Nat) {j k : Nat} (h : j ≤ k) :
    signedAt false (m * 2 ^ j) (-j) (-k) = ((m * 2 ^ k : Nat) : Int) := by
  have hdiff : (-(j : Int) - -(k : Int)).toNat = k - j := by omega
  have hpow : 2 ^ j * 2 ^ (k - j) = 2 ^ k := by rw [← Nat.pow_add]; congr 1; omega
  simp only [signedAt, hdiff, Nat.pow_eq, Bool.false_eq_true, if_false]
  exact_mod_cast by rw [Nat.mul_assoc, hpow]

theorem roundDyadic_shift {n : Nat} (hlt : n < 2 ^ 53) (k : Nat) :
    roundDyadic false (n * 2 ^ k) (-k) = ofNat n := by
  rw [roundDyadic]
  split
  · rw [Int.neg_neg, Int.toNat_natCast]
    exact round_shift hlt k
  · have hzero : k = 0 := by omega
    subst hzero
    simp [ofNat]

/-- **A sum below `2^53` is exact.** -/
theorem add_ofNat {m n : Nat} (hlt : m + n < 2 ^ 53) :
    (ofNat m).add (ofNat n) = ofNat (m + n) := by
  obtain ⟨j, hj⟩ := exists_ofNat (n := m) (by omega)
  obtain ⟨k, hk⟩ := exists_ofNat (n := n) (by omega)
  have hbase : min (-(j : Int)) (-(k : Int)) = -((max j k : Nat) : Int) := by omega
  have hsum : ((m * 2 ^ max j k : Nat) : Int) + ((n * 2 ^ max j k : Nat) : Int)
      = (((m + n) * 2 ^ max j k : Nat) : Int) := by rw [Nat.add_mul]; rfl
  rw [hj, hk]
  simp only [add, hbase, signedAt_shift m (Nat.le_max_left j k),
    signedAt_shift n (Nat.le_max_right j k), hsum]
  rw [decide_eq_false (by omega : ¬ (((m + n) * 2 ^ max j k : Nat) : Int) < 0), Int.natAbs_natCast,
    roundDyadic_shift hlt]
  split
  · have hzero : m + n = 0 := by
      have hprod : (m + n) * 2 ^ max j k = 0 := by omega
      exact (Nat.mul_eq_zero.mp hprod).resolve_right (by positivity)
    rw [hzero]
    rfl
  · rfl

/-- **Adding up natural numbers gives their sum**, as long as it stays below `2^53`. -/
theorem sum_ofNat {ns : List Nat} (hlt : ns.sum < 2 ^ 53) :
    (ns.map ofNat).foldl add (zero false) = ofNat ns.sum := by
  have hfrom : ∀ (ns : List Nat) (start : Nat), start + ns.sum < 2 ^ 53 →
      (ns.map ofNat).foldl add (ofNat start) = ofNat (start + ns.sum) := by
    intro ns
    induction ns with
    | nil => intro start _; rfl
    | cons n ns ih =>
      intro start hstart
      rw [List.sum_cons] at hstart ⊢
      rw [List.map_cons, List.foldl_cons, add_ofNat (by omega), ih _ (by omega), Nat.add_assoc]
  have hzero := hfrom ns 0 (by omega)
  rwa [Nat.zero_add] at hzero

theorem ofInt_natCast (n : Nat) : ofInt n = ofNat n := by
  rw [ofInt, decide_eq_false (by omega), Int.natAbs_natCast, ofNat]

end LogSearch.Binary64
