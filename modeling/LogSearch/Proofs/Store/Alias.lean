import LogSearch.Proofs.Keyed
import LogSearch.Store.Basic

/-!
# Aliases after actions

A list of actions changes an alias only by the actions that name it, one after the other
(`get?_foldl_applyAction`), and changes no index.

Main statement: moving an alias (`Store.cycleAlias_lands_iff`). The action that takes the alias off
the old index comes after the one that puts it on the new index, so where both are one index the
alias is lost; everywhere else it lands on the new index.
-/

namespace LogSearch

/-- What an action makes of the index of the alias that it names. -/
def AliasAction.effect (target : Option String) : AliasAction → Option String
  | .add index _ => some index
  | .remove index _ => if target = some index then none else target

namespace Store

variable {store : Store} {aliases : List (String × String)} {name : String}

/-! ## Actions -/

theorem get?_applyAction_self (aliases : List (String × String)) (action : AliasAction) :
    Keyed.get? action.name (applyAction aliases action)
      = action.effect (Keyed.get? action.name aliases) := by
  cases action with
  | add index name => exact Keyed.get?_insert_self name index aliases
  | remove index name =>
    rw [applyAction, AliasAction.effect, AliasAction.name]
    split
    · exact Keyed.get?_erase_self name aliases
    · rfl

/-- An action leaves the other aliases alone. -/
theorem get?_applyAction_of_ne {action : AliasAction} (h : name ≠ action.name)
    (aliases : List (String × String)) :
    Keyed.get? name (applyAction aliases action) = Keyed.get? name aliases := by
  cases action with
  | add index other => exact Keyed.get?_insert_of_ne h index aliases
  | remove index other =>
    rw [applyAction]
    split
    · exact Keyed.get?_erase_of_ne h aliases
    · rfl

/-- **Actions change an alias by those that name it, in their order.** -/
theorem get?_foldl_applyAction (actions : List AliasAction) (aliases : List (String × String)) :
    Keyed.get? name (actions.foldl applyAction aliases)
      = (actions.filter fun action => action.name = name).foldl AliasAction.effect
          (Keyed.get? name aliases) := by
  induction actions generalizing aliases with
  | nil => rfl
  | cons action actions ih =>
    rw [List.foldl_cons, ih]
    by_cases h : action.name = name
    · subst h
      rw [List.filter_cons_of_pos (by simp), List.foldl_cons, get?_applyAction_self]
    · rw [List.filter_cons_of_neg (by simpa using h), get?_applyAction_of_ne (Ne.symm h)]

/-- A list of actions is carried out if all their indices exist. -/
theorem updateAliases_eq_ok {actions : List AliasAction}
    (h : ∀ action ∈ actions, store.hasIndex action.index) :
    store.updateAliases actions
      = .ok { store with aliases := actions.foldl applyAction store.aliases } := by
  have hnone : actions.find? (fun action => !store.hasIndex action.index) = none := by
    refine List.find?_eq_none.mpr fun action hmem => ?_
    simp [h action hmem]
  rw [updateAliases, hnone]

/-! ## Moving an alias -/

/-- The actions of a move all name the alias, and only the two indices. -/
theorem name_of_mem_cycleActions {new : String} {old : Option String} {action : AliasAction}
    (h : action ∈ cycleActions name new old) :
    action.name = name ∧ (action.index = new ∨ some action.index = old) := by
  cases old with
  | none =>
    obtain rfl := List.mem_singleton.mp h
    exact ⟨rfl, Or.inl rfl⟩
  | some index =>
    rcases List.mem_cons.mp h with rfl | h
    · exact ⟨rfl, Or.inl rfl⟩
    · obtain rfl := List.mem_singleton.mp h
      exact ⟨rfl, Or.inr rfl⟩

theorem foldl_effect_cycleActions (target : Option String) (new : String) (old : Option String) :
    (cycleActions name new old).foldl AliasAction.effect target
      = if old = some new then none else some new := by
  cases old with
  | none => rfl
  | some index =>
    show (if some new = some index then none else some new) = _
    simp only [Option.some.injEq, eq_comm]

/-- **A move lands on the new index exactly if the old index is another one.** If it is the same,
the alias is lost. The other aliases, the indices and their documents stay as they are. -/
theorem cycleAlias_lands_iff (store : Store) (name new : String) (old : Option String)
    (hnew : store.hasIndex new) (hold : ∀ index ∈ old, store.hasIndex index) :
    ∃ after, store.cycleAlias name new old = .ok after
      ∧ (after.aliasTarget name = some new ↔ old ≠ some new)
      ∧ (old = some new → after.aliasTarget name = none)
      ∧ (∀ other, other ≠ name → after.aliasTarget other = store.aliasTarget other)
      ∧ after.indices = store.indices := by
  have hindex : ∀ action ∈ cycleActions name new old, store.hasIndex action.index := by
    intro action h
    rcases (name_of_mem_cycleActions h).2 with rfl | h
    · exact hnew
    · exact hold _ h.symm
  -- all actions of a move are about its alias, so their effects make its target
  have hself : ((cycleActions name new old).filter fun action => action.name = name)
      = cycleActions name new old :=
    List.filter_eq_self.mpr fun action h => by simpa using (name_of_mem_cycleActions h).1
  have htarget : Keyed.get? name ((cycleActions name new old).foldl applyAction store.aliases)
      = if old = some new then none else some new := by
    rw [get?_foldl_applyAction, hself, foldl_effect_cycleActions]
  refine ⟨_, updateAliases_eq_ok hindex, ?_, ?_, ?_, rfl⟩
  · show Keyed.get? name _ = some new ↔ _
    rw [htarget]
    by_cases h : old = some new <;> simp [h]
  · intro h
    show Keyed.get? name _ = none
    rw [htarget, if_pos h]
  · intro other hne
    have hnone : ((cycleActions name new old).filter fun action => action.name = other) = [] := by
      refine List.filter_eq_nil_iff.mpr fun action h => ?_
      rw [(name_of_mem_cycleActions h).1]
      simpa using Ne.symm hne
    show Keyed.get? other _ = Keyed.get? other store.aliases
    rw [get?_foldl_applyAction, hnone]
    rfl

/-- The alias `w` moves from `a_0` to `a_1`. -/
theorem cycleAlias_lands_elsewhere :
    let store : Store := ⟨[("a_0", []), ("a_1", [])], [("w", "a_0")], .insertion 20⟩
    ∃ after, store.cycleAlias "w" "a_1" (some "a_0") = .ok after
      ∧ after.aliasTarget "w" = some "a_1" := by
  intro store
  obtain ⟨after, hok, hlands, _⟩ :=
    cycleAlias_lands_iff store "w" "a_1" (some "a_0") (by decide) (by decide)
  exact ⟨after, hok, hlands.mpr (by decide)⟩

/-- An alias that is put on an index and then moved to that index is lost. -/
theorem cycleAlias_same_loses :
    let sorter : Sorter := .insertion 20
    let store : Store := ⟨[("a_0", [])], [("w", "a_0")], sorter⟩
    ((Store.empty sorter).createIndex "a_0").updateAliases [.add "a_0" "w"] = .ok store
      ∧ store.aliasTarget "w" = some "a_0"
      ∧ store.cycleAlias "w" "a_0" (some "a_0") = .ok ⟨[("a_0", [])], [], sorter⟩
      ∧ Store.aliasTarget ⟨[("a_0", [])], [], sorter⟩ "w" ≠ some "a_0" :=
  ⟨rfl, rfl, rfl, by decide⟩

end Store

end LogSearch
