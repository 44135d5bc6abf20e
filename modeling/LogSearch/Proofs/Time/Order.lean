import LogSearch.Time.Instant

/-!
# The order of instants

An instant has a `rank`, a number that grows with it and tells it from all others. Comparing
instants is comparing their ranks (`cmp_eq_compare_rank`), so every fact about their order is one
about integers.
-/

namespace LogSearch

/-- Two digits compare like the number they make. -/
theorem compare_mul_add {a a' : Int} {b b' n : Nat} (hb : b < n) (hb' : b' < n) :
    compare (a * n + b) (a' * n + b') = (compare a a').then (compare b b') := by
  -- a step of the first digit outweighs the second
  have hstep : ∀ {x y : Int}, x < y → x * n + n ≤ y * n := by
    intro x y h
    have := Int.mul_le_mul_of_nonneg_right (show x + 1 ≤ y from h) (Int.natCast_nonneg n)
    rwa [Int.add_mul, Int.one_mul] at this
  cases ha : compare a a' with
  | lt =>
    have := hstep (Int.compare_eq_lt.mp ha)
    exact Int.compare_eq_lt.mpr (by omega)
  | gt =>
    have := hstep (Int.compare_eq_gt.mp ha)
    exact Int.compare_eq_gt.mpr (by omega)
  | eq =>
    obtain rfl := Std.compare_eq_iff_eq.mp ha
    rw [Ordering.eq_then]
    cases hc : compare b b' with
    | lt =>
      have := Nat.compare_eq_lt.mp hc
      exact Int.compare_eq_lt.mpr (by omega)
    | gt =>
      have := Nat.compare_eq_gt.mp hc
      exact Int.compare_eq_gt.mpr (by omega)
    | eq =>
      obtain rfl := Std.compare_eq_iff_eq.mp hc
      exact Std.ReflOrd.compare_self

namespace Instant

variable {t u v : Instant}

/-- The position of an instant: days, seconds and nanoseconds, a second having places for a leap
second too. -/
def rank (t : Instant) : Int :=
  (t.day * secondsPerDay + t.second) * (2 * nanosPerSecond : Nat) + t.nano

/-- **Comparing instants is comparing their ranks.** -/
theorem cmp_eq_compare_rank (t u : Instant) : t.cmp u = compare t.rank u.rank := by
  rw [rank, rank, compare_mul_add t.nano_lt u.nano_lt, compare_mul_add t.second_lt u.second_lt,
    Ordering.then_assoc]
  rfl

theorem rank_injective (h : t.rank = u.rank) : t = u := by
  have hcmp := (cmp_eq_compare_rank t u).trans (Std.compare_eq_iff_eq.mpr h)
  obtain ⟨hday, hsecond, hnano⟩ : t.day = u.day ∧ t.second = u.second ∧ t.nano = u.nano := by
    simpa [cmp] using hcmp
  cases t
  cases u
  simp_all

theorem cmp_eq_eq_iff : t.cmp u = .eq ↔ t = u := by
  rw [cmp_eq_compare_rank, Std.compare_eq_iff_eq]
  exact ⟨rank_injective, fun h => h ▸ rfl⟩

theorem cmp_ne_gt_iff : t.cmp u ≠ .gt ↔ t ≤ u := by
  show _ ↔ (t.cmp u != .gt) = true
  rw [bne_iff_ne]

theorem le_iff_rank : t ≤ u ↔ t.rank ≤ u.rank := by
  rw [← cmp_ne_gt_iff, cmp_eq_compare_rank, ne_eq, Int.compare_eq_gt]
  omega

theorem cmp_ne_lt_iff : t.cmp u ≠ .lt ↔ u ≤ t := by
  rw [le_iff_rank, cmp_eq_compare_rank, ne_eq, Int.compare_eq_lt]
  omega

theorem lt_iff_rank : t < u ↔ t.rank < u.rank := by
  rw [← Int.compare_eq_lt, ← cmp_eq_compare_rank]
  exact beq_iff_eq

theorem rank_latest (t u : Instant) : (t.latest u).rank = max t.rank u.rank := by
  rw [latest]
  split
  · next h =>
    rw [le_iff_rank] at h
    omega
  · next h =>
    rw [le_iff_rank] at h
    omega

theorem le_trans (h : t ≤ u) (h' : u ≤ v) : t ≤ v := by
  rw [le_iff_rank] at *
  omega

/-- What is not after something lies on the same day or before. -/
theorem day_mono (h : t ≤ u) : t.day ≤ u.day := by
  have ht := t.second_lt
  have hu := u.second_lt
  have hu' := u.nano_lt
  rw [le_iff_rank] at h
  simp only [rank, secondsPerDay, nanosPerSecond] at *
  omega

instance : Std.LawfulEqOrd Instant where
  compare_self := cmp_eq_eq_iff.mpr rfl
  eq_of_compare h := cmp_eq_eq_iff.mp h

instance : Std.TransOrd Instant where
  eq_swap {t u} := by
    show t.cmp u = (u.cmp t).swap
    rw [cmp_eq_compare_rank, cmp_eq_compare_rank]
    exact Std.OrientedOrd.eq_swap
  isLE_trans {t u v} h h' := by
    show (t.cmp v).isLE
    change (t.cmp u).isLE at h
    change (u.cmp v).isLE at h'
    rw [cmp_eq_compare_rank] at *
    exact Std.TransOrd.isLE_trans h h'

end Instant

end LogSearch
