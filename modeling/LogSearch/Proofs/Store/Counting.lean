import Mathlib
import LogSearch.Proofs.Keyed

/-!
# Counting what is grouped

Documents that are put into groups can be counted group by group or one by one (`sum_groups`). A
list of pairs that is put into a keyed list loses what is put under a key that is there already;
with all values above zero, the sum stays the same exactly if no key comes twice
(`sum_ofList_eq_iff`).
-/

namespace LogSearch

variable {κ δ : Type}

/-! ## Groups -/

theorem sum_map_ite (keys : List κ) (p : κ → Bool) (n : Nat) :
    (keys.map fun key => if p key then n else 0).sum = n * keys.countP p := by
  induction keys with
  | nil => rfl
  | cons key keys ih =>
    rw [List.map_cons, List.sum_cons, ih, List.countP_cons]
    cases p key <;> simp [Nat.mul_add, Nat.add_comm]

/-- **Counting by groups is counting every member once for each of its groups.** -/
theorem sum_groups (keys : List κ) (members : List δ) (belongs : δ → κ → Bool) (weight : δ → Nat) :
    (keys.map fun key => ((members.filter fun member => belongs member key).map weight).sum).sum
      = (members.map fun member => weight member * keys.countP (belongs member)).sum := by
  induction members with
  | nil => simp
  | cons member members ih =>
    have hstep : ∀ key, (((member :: members).filter fun other => belongs other key).map weight).sum
        = (if belongs member key then weight member else 0)
          + ((members.filter fun other => belongs other key).map weight).sum := fun key => by
      rw [List.filter_cons]
      cases belongs member key <;> simp
    simp only [hstep]
    rw [List.sum_map_add, sum_map_ite, ih, List.map_cons, List.sum_cons]

/-- Of keys that come once each, one is a given one. -/
theorem countP_eq_one [DecidableEq κ] {keys : List κ} (hkeys : keys.Nodup) {key : κ}
    (hmem : key ∈ keys) {p : κ → Bool} (hp : ∀ other, p other = true ↔ other = key) :
    keys.countP p = 1 := by
  have hcount := List.count_eq_one_of_mem hkeys hmem
  rw [List.count] at hcount
  rw [← hcount]
  refine List.countP_congr fun other _ => ?_
  rw [hp, beq_iff_eq]

/-- **If every member belongs to exactly one key, all are counted once.** -/
theorem sum_groups_of_one [DecidableEq κ] {keys : List κ} (hkeys : keys.Nodup)
    {members : List δ} {belongs : δ → κ → Bool}
    (h : ∀ member ∈ members, ∃ key ∈ keys, ∀ other, belongs member other = true ↔ other = key)
    (weight : δ → Nat) :
    (keys.map fun key => ((members.filter fun member => belongs member key).map weight).sum).sum
      = (members.map weight).sum := by
  rw [sum_groups]
  congr 1
  refine List.map_congr_left fun member hmember => ?_
  obtain ⟨key, hkey, hbelongs⟩ := h member hmember
  rw [countP_eq_one hkeys hkey hbelongs, Nat.mul_one]

/-! ## Keyed lists -/

namespace Keyed

variable [Ord κ] {into : List (κ × Nat)}

theorem insertAll_cons (key : κ) (value : Nat) (pairs into : List (κ × Nat)) :
    insertAll ((key, value) :: pairs) into = insertAll pairs (insert key value into) := rfl

variable [Std.TransOrd κ] [Std.LawfulEqOrd κ]

/-- Putting in a value takes out the one that was there. -/
theorem Sorted.sum_insert (h : Sorted into) (key : κ) (value : Nat) :
    ((Keyed.insert key value into).map Prod.snd).sum + (get? key into).getD 0
      = (into.map Prod.snd).sum + value := by
  fun_induction Keyed.insert key value into with
  | case1 => simp [get?]
  | case2 k v rest hlt =>
    rw [h.get?_of_lt hlt, List.map_cons, List.sum_cons, Option.getD_none]
    omega
  | case3 k v rest heq =>
    obtain rfl := Std.compare_eq_iff_eq.mp heq
    rw [get?_cons_self, List.map_cons, List.map_cons, List.sum_cons, List.sum_cons,
      Option.getD_some]
    omega
  | case4 k v rest hgt ih =>
    have hne : key ≠ k := by
      rintro rfl
      rw [Std.ReflOrd.compare_self] at hgt
      cases hgt
    have hrest := ih h.tail
    rw [get?_cons_of_ne hne, List.map_cons, List.map_cons, List.sum_cons, List.sum_cons]
    omega

theorem Sorted.sum_insertAll_le (h : Sorted into) (pairs : List (κ × Nat)) :
    ((insertAll pairs into).map Prod.snd).sum
      ≤ (into.map Prod.snd).sum + (pairs.map Prod.snd).sum := by
  induction pairs generalizing into with
  | nil => simp [insertAll]
  | cons pair pairs ih =>
    obtain ⟨key, value⟩ := pair
    have hstep := h.sum_insert key value
    have hrest := ih (h.insert key value)
    rw [insertAll_cons, List.map_cons, List.sum_cons]
    omega

/-- Nothing is taken out exactly if every key comes once and none was there before. -/
theorem Sorted.sum_insertAll_eq_iff (h : Sorted into) (hinto : ∀ pair ∈ into, 0 < pair.2)
    {pairs : List (κ × Nat)} (hpairs : ∀ pair ∈ pairs, 0 < pair.2) :
    ((insertAll pairs into).map Prod.snd).sum
        = (into.map Prod.snd).sum + (pairs.map Prod.snd).sum
      ↔ (pairs.map Prod.fst).Nodup ∧ ∀ key ∈ pairs.map Prod.fst, get? key into = none := by
  induction pairs generalizing into with
  | nil => simp [insertAll]
  | cons pair pairs ih =>
    obtain ⟨key, value⟩ := pair
    have hvalue : 0 < value := hpairs _ List.mem_cons_self
    have hle := (h.insert key value).sum_insertAll_le pairs
    have hstep := h.sum_insert key value
    have hrest := ih (h.insert key value)
      (fun pair hpair => by
        rcases mem_insert hpair with rfl | hpair
        · exact hvalue
        · exact hinto pair hpair)
      fun pair hpair => hpairs pair (List.mem_cons_of_mem _ hpair)
    rw [insertAll_cons, List.map_cons, List.sum_cons, List.map_cons, List.nodup_cons,
      List.forall_mem_cons]
    constructor
    · intro hsum
      have hzero : (get? key into).getD 0 = 0 := by omega
      have hnone : get? key into = none := by
        cases hfind : get? key into with
        | none => rfl
        | some old =>
          have := hinto _ (mem_of_get? hfind)
          rw [hfind, Option.getD_some] at hzero
          omega
      obtain ⟨hnodup, hothers⟩ := hrest.mp (by omega)
      -- what comes later is not this key, which is there now
      have hnot : key ∉ pairs.map Prod.fst := fun hmem => by
        have := hothers key hmem
        rw [get?_insert_self] at this
        cases this
      refine ⟨⟨hnot, hnodup⟩, hnone, fun other hother => ?_⟩
      rw [← hothers other hother, get?_insert_of_ne (ne_of_mem_of_not_mem hother hnot)]
    · rintro ⟨⟨hnot, hnodup⟩, hnone, hothers⟩
      have hsum := hrest.mpr ⟨hnodup, fun other hother => by
        rw [get?_insert_of_ne (ne_of_mem_of_not_mem hother hnot), hothers other hother]⟩
      rw [hnone, Option.getD_none] at hstep
      omega

/-- Pairs with one key count once, so the sum does not grow. -/
theorem sum_ofList_le (pairs : List (κ × Nat)) :
    ((ofList pairs).map Prod.snd).sum ≤ (pairs.map Prod.snd).sum := by
  have hle := Sorted.sum_insertAll_le (List.Pairwise.nil : Sorted ([] : List (κ × Nat))) pairs
  rwa [List.map_nil, List.sum_nil, Nat.zero_add] at hle

/-- **Nothing is lost exactly if no key comes twice.** -/
theorem sum_ofList_eq_iff {pairs : List (κ × Nat)} (h : ∀ pair ∈ pairs, 0 < pair.2) :
    ((ofList pairs).map Prod.snd).sum = (pairs.map Prod.snd).sum
      ↔ (pairs.map Prod.fst).Nodup := by
  have hiff := Sorted.sum_insertAll_eq_iff (List.Pairwise.nil : Sorted ([] : List (κ × Nat)))
    (fun _ hmem => by cases hmem) h
  rw [List.map_nil, List.sum_nil, Nat.zero_add] at hiff
  rw [ofList, hiff]
  exact and_iff_left fun _ _ => rfl

end Keyed

end LogSearch
