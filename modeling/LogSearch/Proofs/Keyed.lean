import LogSearch.Keyed

/-!
# Look-ups in keyed lists

What the operations on keyed lists do to look-ups holds of every list (`get?_insert`, `get?_erase`).
Only where lists are compared is their order needed: ascending lists with the same look-ups are the
same (`Sorted.ext`).
-/

namespace LogSearch.Keyed

variable {κ : Type} {α : Type} [Ord κ] {key other : κ} {value : α} {pairs : List (κ × α)}

/-! ## Look-ups -/

section

variable [Std.LawfulEqOrd κ]

theorem get?_cons_self : get? key ((key, value) :: pairs) = some value := by
  rw [get?, if_pos Std.ReflOrd.compare_self]

theorem get?_cons_of_ne (h : other ≠ key) :
    get? other ((key, value) :: pairs) = get? other pairs := by
  rw [get?, if_neg fun he => h (Std.compare_eq_iff_eq.mp he)]

/-- What is put under a key is found there. -/
theorem get?_insert_self (key : κ) (value : α) (pairs : List (κ × α)) :
    get? key (insert key value pairs) = some value := by
  fun_induction insert key value pairs with
  | case1 => exact get?_cons_self
  | case2 => exact get?_cons_self
  | case3 => exact get?_cons_self
  | case4 k v rest h ih =>
    have hne : key ≠ k := by
      rintro rfl
      rw [Std.ReflOrd.compare_self] at h
      cases h
    rw [get?_cons_of_ne hne, ih]

/-- Nothing else is found under the other keys. -/
theorem get?_insert_of_ne (h : other ≠ key) (value : α) (pairs : List (κ × α)) :
    get? other (insert key value pairs) = get? other pairs := by
  fun_induction insert key value pairs with
  | case1 => exact get?_cons_of_ne h
  | case2 => exact get?_cons_of_ne h
  | case3 k v rest he =>
    obtain rfl := Std.compare_eq_iff_eq.mp he
    rw [get?_cons_of_ne h, get?_cons_of_ne h]
  | case4 k v rest _ ih => rw [get?, get?, ih]

theorem get?_update_self (key : κ) (default : α) (f : α → α) (pairs : List (κ × α)) :
    get? key (update key default f pairs) = some (f ((get? key pairs).getD default)) :=
  get?_insert_self ..

theorem get?_update_of_ne (h : other ≠ key) (default : α) (f : α → α) (pairs : List (κ × α)) :
    get? other (update key default f pairs) = get? other pairs :=
  get?_insert_of_ne h ..

/-- Nothing is found under a key that was removed. -/
theorem get?_erase_self (key : κ) (pairs : List (κ × α)) : get? key (erase key pairs) = none := by
  induction pairs with
  | nil => rfl
  | cons pair pairs ih =>
    obtain ⟨k, v⟩ := pair
    by_cases h : key = k
    · subst h
      simpa [erase, Std.ReflOrd.compare_self] using ih
    · have hkeep : erase key ((k, v) :: pairs) = (k, v) :: erase key pairs := by
        simp [erase, h]
      rw [hkeep, get?_cons_of_ne h, ih]

theorem get?_erase_of_ne (h : other ≠ key) (pairs : List (κ × α)) :
    get? other (erase key pairs) = get? other pairs := by
  induction pairs with
  | nil => rfl
  | cons pair pairs ih =>
    obtain ⟨k, v⟩ := pair
    by_cases hk : key = k
    · subst hk
      rw [get?_cons_of_ne h, ← ih]
      simp [erase, Std.ReflOrd.compare_self]
    · have hkeep : erase key ((k, v) :: pairs) = (k, v) :: erase key pairs := by
        simp [erase, hk]
      rw [hkeep, get?, get?, ih]

/-- What is found stands in the list. -/
theorem mem_of_get? (h : get? key pairs = some value) : (key, value) ∈ pairs := by
  induction pairs with
  | nil => cases h
  | cons pair pairs ih =>
    obtain ⟨k, v⟩ := pair
    by_cases hk : key = k
    · subst hk
      rw [get?_cons_self] at h
      rw [Option.some.inj h]
      exact List.mem_cons_self
    · rw [get?_cons_of_ne hk] at h
      exact List.mem_cons_of_mem _ (ih h)

end

/-- Another value for each key changes what is found the same way. -/
theorem get?_map {β : Type} (f : α → β) (key : κ) (pairs : List (κ × α)) :
    get? key (pairs.map fun (k, v) => (k, f v)) = (get? key pairs).map f := by
  induction pairs with
  | nil => rfl
  | cons pair pairs ih =>
    rw [List.map_cons, get?, get?, ih]
    split <;> rfl

/-! ## Ascending lists -/

/-- The keys ascend, so each comes once. -/
def Sorted (pairs : List (κ × α)) : Prop := pairs.Pairwise fun a b => compare a.1 b.1 = .lt

theorem Sorted.tail {pair : κ × α} (h : Sorted (pair :: pairs)) : Sorted pairs :=
  (List.pairwise_cons.mp h).2

theorem Sorted.map {β : Type} (h : Sorted pairs) (f : α → β) :
    Sorted (pairs.map fun (k, v) => (k, f v)) :=
  List.pairwise_map.mpr h

/-- The first key is none of the others. -/
theorem Sorted.get?_tail [Std.LawfulEqOrd κ] (h : Sorted ((key, value) :: pairs)) :
    get? key pairs = none := by
  cases hfind : get? key pairs with
  | none => rfl
  | some v =>
    have hlt := (List.pairwise_cons.mp h).1 _ (mem_of_get? hfind)
    rw [Std.ReflOrd.compare_self] at hlt
    cases hlt

/-- Nothing is found under a key before the first. -/
theorem Sorted.get?_of_lt [Std.TransOrd κ] [Std.LawfulEqOrd κ] {first : κ × α}
    (h : Sorted (first :: pairs)) (hlt : compare key first.1 = .lt) :
    get? key (first :: pairs) = none := by
  cases hfind : get? key (first :: pairs) with
  | none => rfl
  | some v =>
    rcases List.mem_cons.mp (mem_of_get? hfind) with rfl | hmem
    · rw [Std.ReflOrd.compare_self] at hlt
      cases hlt
    · exact absurd ((List.pairwise_cons.mp h).1 _ hmem) (Std.OrientedCmp.not_lt_of_lt hlt)

/-- What stands in an ascending list is found. -/
theorem Sorted.get?_of_mem [Std.LawfulEqOrd κ] (h : Sorted pairs) (hmem : (key, value) ∈ pairs) :
    get? key pairs = some value := by
  induction pairs with
  | nil => cases hmem
  | cons pair pairs ih =>
    rcases List.mem_cons.mp hmem with rfl | htail
    · exact get?_cons_self
    · obtain ⟨k, v⟩ := pair
      have hlt := (List.pairwise_cons.mp h).1 _ htail
      have hne : key ≠ k := by
        rintro rfl
        rw [Std.ReflOrd.compare_self] at hlt
        cases hlt
      rw [get?_cons_of_ne hne]
      exact ih h.tail htail

theorem mem_insert {pair : κ × α} (h : pair ∈ insert key value pairs) :
    pair = (key, value) ∨ pair ∈ pairs := by
  fun_induction insert key value pairs with
  | case1 => exact Or.inl (by simpa using h)
  | case2 => exact List.mem_cons.mp h
  | case3 k v rest _ => exact (List.mem_cons.mp h).imp_right (List.mem_cons_of_mem _)
  | case4 k v rest _ ih =>
    rcases List.mem_cons.mp h with rfl | h
    · exact Or.inr List.mem_cons_self
    · exact (ih h).imp_right (List.mem_cons_of_mem _)

theorem mem_of_mem_ofList {pair : κ × α} (h : pair ∈ ofList pairs) : pair ∈ pairs := by
  have hfrom : ∀ (pairs into : List (κ × α)), pair ∈ insertAll pairs into →
      pair ∈ pairs ∨ pair ∈ into := by
    intro pairs
    induction pairs with
    | nil => exact fun into h => Or.inr h
    | cons first pairs ih =>
      intro into h
      rcases ih _ h with hmem | hmem
      · exact Or.inl (List.mem_cons_of_mem _ hmem)
      · rcases mem_insert hmem with rfl | hmem
        · exact Or.inl List.mem_cons_self
        · exact Or.inr hmem
  exact (hfrom pairs [] h).resolve_right List.not_mem_nil

/-- A new key is put among the others. -/
theorem insert_perm [Std.LawfulEqOrd κ] (h : key ∉ pairs.map Prod.fst) :
    (insert key value pairs).Perm ((key, value) :: pairs) := by
  fun_induction insert key value pairs with
  | case1 => exact .refl _
  | case2 => exact .refl _
  | case3 k v rest heq =>
    rw [Std.compare_eq_iff_eq.mp heq] at h
    exact absurd List.mem_cons_self h
  | case4 k v rest _ ih =>
    exact ((ih fun hmem => h (List.mem_cons_of_mem _ hmem)).cons (k, v)).trans (.swap ..)

/-- Pairs with different keys are only put in order. -/
theorem perm_ofList [Std.LawfulEqOrd κ] (h : (pairs.map Prod.fst).Nodup) :
    (ofList pairs).Perm pairs := by
  have hall : ∀ rest into : List (κ × α), ((into ++ rest).map Prod.fst).Nodup →
      (insertAll rest into).Perm (into ++ rest) := by
    intro rest
    induction rest with
    | nil => intro into _; rw [List.append_nil]; exact .refl _
    | cons pair rest ih =>
      intro into hnodup
      have hfirst := hnodup
      rw [List.map_append, List.map_cons, List.nodup_append] at hfirst
      have hnew : pair.1 ∉ into.map Prod.fst :=
        fun hmem => hfirst.2.2 pair.1 hmem pair.1 List.mem_cons_self rfl
      have hstep : (insert pair.1 pair.2 into ++ rest).Perm (into ++ pair :: rest) :=
        ((insert_perm hnew).append_right rest).trans List.perm_middle.symm
      exact (ih _ ((hstep.map Prod.fst).nodup_iff.mpr hnodup)).trans hstep
  exact hall pairs [] h

/-- A key after all others comes last. -/
theorem insert_eq_append [Std.TransOrd κ] (h : Sorted (pairs ++ [(key, value)])) :
    Keyed.insert key value pairs = pairs ++ [(key, value)] := by
  induction pairs with
  | nil => rfl
  | cons pair pairs ih =>
    have hgt : compare key pair.1 = .gt :=
      Std.OrientedCmp.gt_of_lt ((List.pairwise_cons.mp h).1 (key, value) (by simp))
    rw [Keyed.insert, hgt, ih h.tail]
    rfl

/-- **Pairs that ascend stay as they are.** -/
theorem Sorted.ofList_eq [Std.TransOrd κ] (h : Sorted pairs) : ofList pairs = pairs := by
  have hall : ∀ rest into : List (κ × α), Sorted (into ++ rest) →
      insertAll rest into = into ++ rest := by
    intro rest
    induction rest with
    | nil => intro into _; exact (List.append_nil into).symm
    | cons pair rest ih =>
      intro into hsorted
      rw [List.append_cons] at hsorted
      have hfirst := insert_eq_append (hsorted.sublist (List.sublist_append_left _ rest))
      rw [List.append_cons, ← ih _ hsorted, ← hfirst]
      rfl
  exact hall pairs [] h

section

variable [Std.TransOrd κ] [Std.LawfulEqOrd κ]

/-- **Insertion keeps the order.** -/
theorem Sorted.insert (h : Sorted pairs) (key : κ) (value : α) :
    Sorted (insert key value pairs) := by
  fun_induction Keyed.insert key value pairs with
  | case1 => exact List.pairwise_singleton _ _
  | case2 k v rest hlt =>
    refine List.pairwise_cons.mpr ⟨?_, h⟩
    intro pair hpair
    rcases List.mem_cons.mp hpair with rfl | hpair
    · exact hlt
    · exact Std.TransCmp.lt_trans hlt ((List.pairwise_cons.mp h).1 pair hpair)
  | case3 k v rest heq =>
    obtain rfl := Std.compare_eq_iff_eq.mp heq
    exact List.pairwise_cons.mpr (List.pairwise_cons.mp h)
  | case4 k v rest hgt ih =>
    refine List.pairwise_cons.mpr ⟨?_, ih h.tail⟩
    intro pair hpair
    rcases mem_insert hpair with rfl | hpair
    · exact Std.OrientedCmp.lt_of_gt hgt
    · exact (List.pairwise_cons.mp h).1 pair hpair

/-- **Ascending lists with the same look-ups are the same.** -/
theorem Sorted.ext {left right : List (κ × α)} (hl : Sorted left) (hr : Sorted right)
    (h : ∀ key, get? key left = get? key right) : left = right := by
  induction left generalizing right with
  | nil =>
    cases right with
    | nil => rfl
    | cons pair right =>
      have := h pair.1
      rw [get?_cons_self] at this
      cases this
  | cons pair left ih =>
    obtain ⟨k, v⟩ := pair
    cases right with
    | nil =>
      have := h k
      rw [get?_cons_self] at this
      cases this
    | cons pair right =>
      obtain ⟨k', v'⟩ := pair
      have hleft : (k, v) ∈ (k', v') :: right := mem_of_get? (by rw [← h k, get?_cons_self])
      have hright : (k', v') ∈ (k, v) :: left := mem_of_get? (by rw [h k', get?_cons_self])
      -- were the first keys two, each would come behind the other
      have hfirst : k = k' := by
        rcases List.mem_cons.mp hleft with heq | hleft
        · exact (Prod.mk.inj heq).1
        rcases List.mem_cons.mp hright with heq | hright
        · exact (Prod.mk.inj heq).1.symm
        have hlt := (List.pairwise_cons.mp hr).1 _ hleft
        have hgt := (List.pairwise_cons.mp hl).1 _ hright
        exact absurd hgt (Std.OrientedCmp.not_lt_of_lt hlt)
      subst hfirst
      have hvalue := h k
      rw [get?_cons_self, get?_cons_self] at hvalue
      obtain rfl := Option.some.inj hvalue
      rw [ih hl.tail hr.tail]
      intro key
      by_cases hk : key = k
      · rw [hk, hl.get?_tail, hr.get?_tail]
      · have := h key
        rwa [get?_cons_of_ne hk, get?_cons_of_ne hk] at this

end

end LogSearch.Keyed
