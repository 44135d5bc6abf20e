import LogSearch.Proofs.Number.Exact

/-!
# Numbers in order

A number that is compared stands for a rational number, or for one of the ends below and above all
of them (`place?`). Comparing two numbers is comparing their places (`compare?_of_place?`), whatever
their exponents are, so among numbers the comparison is the order of a line; only what is not a
number stands nowhere.

Integers of up to 53 bits, `2^53` and `-2^53` too, are members of the format (`toRat?_ofInt`), so
these are compared as integers (`compare?_ofInt`).
-/

namespace LogSearch.Binary64

/-! ## Places -/

/-- Where a number stands; what is not a number stands nowhere. -/
def place? : Binary64 → Option (WithBot (WithTop ℚ))
  | .nan => none
  | .infinity negative => some (if negative then ⊥ else ⊤)
  | .finite negative m q =>
    some (((if negative then -1 else 1) * m * 2 ^ q : ℚ) : WithTop ℚ)

theorem place?_eq_none_iff {x : Binary64} : x.place? = none ↔ x = .nan := by
  cases x <;> simp [place?]

theorem place?_of_toRat? {x : Binary64} {r : ℚ} (h : x.toRat? = some r) :
    x.place? = some ((r : WithTop ℚ) : WithBot (WithTop ℚ)) := by
  cases x with
  | nan => cases h
  | infinity negative => cases h
  | finite negative m q =>
    obtain rfl := Option.some.inj h
    rfl

/-! ## Comparison -/

/-- A mantissa counted in smaller units stands for the same number. -/
theorem signedAt_mul (negative : Bool) (m : Nat) {q base : Int} (h : base ≤ q) :
    (signedAt negative m q base : ℚ) * 2 ^ base = (if negative then -1 else 1) * m * 2 ^ q := by
  have hpow : (2 : ℚ) ^ (q - base).toNat * 2 ^ base = 2 ^ q := by
    rw [← zpow_natCast, ← zpow_add₀ two_ne_zero]
    congr 1
    omega
  rw [← hpow, signedAt]
  cases negative <;> simp [mul_assoc]

theorem compare_signedAt (a b : Bool) (m n : Nat) (q r : Int) :
    compare (signedAt a m q (min q r)) (signedAt b n r (min q r))
      = compare ((if a then -1 else 1) * m * 2 ^ q : ℚ) ((if b then -1 else 1) * n * 2 ^ r) := by
  have hmono : StrictMono fun k : Int => (k : ℚ) * 2 ^ min q r := fun k l hlt =>
    mul_lt_mul_of_pos_right (Int.cast_lt.mpr hlt) (by positivity)
  have hscaled := hmono.cmp_map_eq (signedAt a m q (min q r)) (signedAt b n r (min q r))
  rw [signedAt_mul a m (min_le_left q r), signedAt_mul b n (min_le_right q r)] at hscaled
  rw [← cmp_eq_compare, ← cmp_eq_compare, hscaled]

/-- **Numbers are compared by their places.** -/
theorem compare?_of_place? {x y : Binary64} {a b : WithBot (WithTop ℚ)} (hx : x.place? = some a)
    (hy : y.place? = some b) : x.compare? y = some (compare a b) := by
  have hends : compare (⊥ : WithBot (WithTop ℚ)) ⊤ = .lt := compare_lt_iff_lt.mpr bot_lt_top
  have hlow : ∀ r : ℚ, compare ⊥ ((r : WithTop ℚ) : WithBot (WithTop ℚ)) = .lt :=
    fun r => compare_lt_iff_lt.mpr (WithBot.bot_lt_coe _)
  have hhigh : ∀ r : ℚ, compare ((r : WithTop ℚ) : WithBot (WithTop ℚ)) ⊤ = .lt :=
    fun r => compare_lt_iff_lt.mpr (WithBot.coe_lt_coe.mpr (WithTop.coe_lt_top r))
  have hmono : StrictMono fun r : ℚ => ((r : WithTop ℚ) : WithBot (WithTop ℚ)) :=
    WithBot.coe_strictMono.comp WithTop.coe_strictMono
  cases x with
  | nan => cases hx
  | infinity p =>
    cases y with
    | nan => cases hy
    | infinity s =>
      obtain rfl := Option.some.inj hx
      obtain rfl := Option.some.inj hy
      -- the negative one is the lower
      have hsigns : compare false true = Ordering.lt ∧ compare true false = Ordering.gt :=
        ⟨rfl, rfl⟩
      cases p <;> cases s
      · simp [compare?]
      · simp [compare?, hsigns, Std.OrientedCmp.gt_of_lt hends]
      · simp [compare?, hsigns, hends]
      · simp [compare?]
    | finite s n r =>
      obtain rfl := Option.some.inj hx
      obtain rfl := Option.some.inj hy
      cases p
      · simp [compare?, Std.OrientedCmp.gt_of_lt (hhigh _)]
      · simp [compare?, hlow]
  | finite p m q =>
    cases y with
    | nan => cases hy
    | infinity s =>
      obtain rfl := Option.some.inj hx
      obtain rfl := Option.some.inj hy
      cases s
      · simp [compare?, hhigh]
      · simp [compare?, Std.OrientedCmp.gt_of_lt (hlow _)]
    | finite s n r =>
      obtain rfl := Option.some.inj hx
      obtain rfl := Option.some.inj hy
      rw [compare?, compare_signedAt, ← cmp_eq_compare, ← cmp_eq_compare, hmono.cmp_map_eq]

/-- Of two numbers the comparison says the same from either side. -/
theorem compare?_swap (x y : Binary64) : y.compare? x = (x.compare? y).map Ordering.swap := by
  cases hx : x.place? with
  | none =>
    rw [place?_eq_none_iff.mp hx]
    cases y <;> rfl
  | some a =>
    cases hy : y.place? with
    | none =>
      rw [place?_eq_none_iff.mp hy]
      cases x <;> rfl
    | some b =>
      rw [compare?_of_place? hx hy, compare?_of_place? hy hx, Option.map_some,
        ← Std.OrientedCmp.eq_swap]

/-! ## Integers -/

theorem round_neg {num : Nat} (hnum : num ≠ 0) (den : Nat) :
    round true num den = (round false num den).neg := by
  simp only [round, if_neg hnum, normalize]
  split_ifs <;> rfl

/-- **Integers of up to 53 bits are members of the format.** -/
theorem toRat?_ofInt {n : Int} (h : n.natAbs ≤ 2 ^ 53) : (ofInt n).toRat? = some (n : ℚ) := by
  have hnat : ∀ m : Nat, m ≤ 2 ^ 53 → (ofNat m).toRat? = some (m : ℚ) := by
    intro m hm
    obtain hlt | rfl := Nat.lt_or_eq_of_le hm
    · exact toRat?_ofNat hlt
    · -- the mantissa has no place for it, the next exponent has
      have htop : ofNat (2 ^ 53) = .finite false (2 ^ 52) 1 := by decide
      rw [htop, toRat?]
      norm_num
  obtain ⟨m, rfl | rfl⟩ := Int.eq_nat_or_neg n
  · rw [ofInt_natCast, hnat m (by omega)]
    rfl
  · obtain rfl | hpos := Nat.eq_zero_or_pos m
    · exact hnat 0 (by omega)
    · have hround : ofInt (-(m : Int)) = (ofNat m).neg := by
        rw [ofInt, decide_eq_true (by omega), Int.natAbs_neg, Int.natAbs_natCast,
          round_neg (by omega), ofNat]
      have hneg : ∀ {x : Binary64} {r : ℚ}, x.toRat? = some r → x.neg.toRat? = some (-r) := by
        intro x r hx
        cases x with
        | nan => cases hx
        | infinity negative => cases hx
        | finite negative m q =>
          obtain rfl := Option.some.inj hx
          cases negative <;> simp [neg, toRat?]
      rw [hround, hneg (hnat m (by omega))]
      push_cast
      rfl

/-- **Integers of up to 53 bits are compared as integers.** -/
theorem compare?_ofInt {m n : Int} (hm : m.natAbs ≤ 2 ^ 53) (hn : n.natAbs ≤ 2 ^ 53) :
    (ofInt m).compare? (ofInt n) = some (compare m n) := by
  have hmono : StrictMono fun k : Int => (((k : ℚ) : WithTop ℚ) : WithBot (WithTop ℚ)) :=
    WithBot.coe_strictMono.comp (WithTop.coe_strictMono.comp Int.cast_strictMono)
  rw [compare?_of_place? (place?_of_toRat? (toRat?_ofInt hm)) (place?_of_toRat? (toRat?_ofInt hn)),
    ← cmp_eq_compare, ← cmp_eq_compare, hmono.cmp_map_eq]

/-- An integer of any size is a number. -/
theorem ofInt_ne_nan (n : Int) : ofInt n ≠ .nan := by
  simp only [ofInt, round, normalize, zero]
  split_ifs <;> exact Binary64.noConfusion

end LogSearch.Binary64
