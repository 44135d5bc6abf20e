import LogSearch.Proofs.Store.Command
import LogSearch.Proofs.Store.Target

/-!
# What a name stands for

A search over one name goes over the documents of the one index that the name stands for
(`searched_singleton`): the index of the alias with this name, and only if there is none the index
with this name. Documents never change, so the answer over a name changes only where the name comes
to stand for another index.

Main statement: commands change no answer over a name that stands for the same index after them, as
all names do that no action puts on or takes off (`Store.search_after`). The name of an index may be
made an alias of another index, which then hides it (`Store.search_after_hidden`).
-/

namespace LogSearch.Store

variable {store later : Store} {name : String}

/-! ## Searches over one name -/

theorem targets_singleton (store : Store) (name : String) :
    store.targets [name]
      = if store.hasIndex (store.resolveName name) then [store.resolveName name] else [] := by
  rw [targets_eq_foldl, List.foldl_cons, List.foldl_nil, addTarget]
  cases store.hasIndex (store.resolveName name) <;> rfl

/-- An index that does not exist has no documents, so it need not be told apart. -/
theorem searched_singleton (store : Store) (name : String) :
    store.searched [name] = store.documents (store.resolveName name) := by
  unfold searched
  rw [targets_singleton]
  cases hindex : store.hasIndex (store.resolveName name) with
  | true => simp
  | false =>
    have hnone : Keyed.get? (store.resolveName name) store.indices = none := by
      simpa [hasIndex] using hindex
    simp [documents, hnone]

/-- The answer to a search depends on the documents only, and on how their buckets are sorted. -/
theorem search_congr {names kept : List String} (h : later.searched names = store.searched kept)
    (hsorter : later.sorter = store.sorter) (body : Json) :
    later.search names body = store.search kept body := by
  unfold search
  rw [h, hsorter]

/-! ## Names through runs -/

theorem Changes.aliasTarget {command : StoreCommand} (h : Changes command store later)
    (hname : ∀ action ∈ command.actions, action.name ≠ name) :
    later.aliasTarget name = store.aliasTarget name := by
  cases h with
  | nothing => rfl
  | index index => rfl
  | aliases =>
    have hnone : (command.actions.filter fun action => action.name = name) = [] := by
      refine List.filter_eq_nil_iff.mpr fun action hmem => ?_
      simpa using hname action hmem
    show Keyed.get? name _ = Keyed.get? name store.aliases
    rw [get?_foldl_applyAction, hnone]
    rfl

/-- An alias that no action names stays as it is. -/
theorem aliasTarget_after {commands : List StoreCommand}
    (h : ∀ command ∈ commands, ∀ action ∈ command.actions, action.name ≠ name) :
    (store.after commands).aliasTarget name = store.aliasTarget name := by
  induction commands generalizing store with
  | nil => rfl
  | cons command commands ih =>
    rw [after_cons, ih fun other hother => h other (List.mem_cons_of_mem _ hother)]
    exact (perform_changes store command).1.aliasTarget (h command List.mem_cons_self)

/-- **Commands change no answer over a name that stands for the same index after them.** This is so
of every name that none of their actions names as the alias. In any case the search goes over the
documents, unchanged, of the index that the name stands for by then. -/
theorem search_after (store : Store) (commands : List StoreCommand) (name : String) :
    (store.after commands).searched [name]
        = store.documents ((store.after commands).resolveName name)
    ∧ ((∀ command ∈ commands, ∀ action ∈ command.actions, action.name ≠ name) →
        (store.after commands).resolveName name = store.resolveName name)
    ∧ ((store.after commands).resolveName name = store.resolveName name →
        ∀ body, (store.after commands).search [name] body = store.search [name] body) := by
  have hsearched : (store.after commands).searched [name]
      = store.documents ((store.after commands).resolveName name) := by
    rw [searched_singleton, (after_extends store commands).documents]
  refine ⟨hsearched, fun h => ?_, fun h body => ?_⟩
  · unfold resolveName
    rw [aliasTarget_after h]
  · refine search_congr ?_ (after_extends store commands).sorter body
    rw [hsearched, h, searched_singleton]

/-- The alias `w` is moved away from the index `a_0`, which is still found. -/
theorem search_after_moved :
    let store : Store := ⟨[("a_0", [⟨.epoch, []⟩]), ("b_0", [])], [("w", "a_0")], .insertion 20⟩
    let moved := store.after [.cycleAlias "w" "b_0" (some "a_0")]
    moved.aliasTarget "w" = some "b_0"
      ∧ (∀ action ∈ cycleActions "w" "b_0" (some "a_0"), action.name ≠ "a_0")
      ∧ moved.search ["a_0"] (.obj []) = store.search ["a_0"] (.obj []) := by
  intro store moved
  have hname : ∀ action ∈ cycleActions "w" "b_0" (some "a_0"), action.name ≠ "a_0" := by decide
  obtain ⟨-, hstands, hsame⟩ := search_after store [.cycleAlias "w" "b_0" (some "a_0")] "a_0"
  refine ⟨rfl, hname, hsame (hstands ?_) _⟩
  intro command hcommand
  obtain rfl := List.mem_singleton.mp hcommand
  exact hname

/-- An alias with the name of an index hides it: its document is no longer found. -/
theorem search_after_hidden :
    let document : Document := ⟨.epoch, [("timestamp", .str "1970-01-01 00:00:00.000")]⟩
    let start : Store := ⟨[("a_0", [document])], [], .insertion 20⟩
    let store := start.after [.createIndex "b_0"]
    let later := store.after [.updateAliases [.add "b_0" "a_0"]]
    start.IsInitial
      ∧ store.hasIndex "a_0"
      ∧ ((StoreM.updateAliases [.add "b_0" "a_0"]).perform store).1 = .ok ()
      ∧ store.search ["a_0"] (.obj []) = .ok (respond [document] none)
      ∧ later.search ["a_0"] (.obj []) = .ok (respond [] none)
      ∧ (respond [document] none).total ≠ (respond [] none).total :=
  ⟨isInitial_epoch _ "a_0", rfl, rfl, rfl, rfl, by decide⟩

end LogSearch.Store
