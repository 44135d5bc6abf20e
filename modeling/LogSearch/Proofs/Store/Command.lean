import LogSearch.Proofs.Stateful
import LogSearch.Proofs.Store.Alias
import LogSearch.Store.Command

/-!
# A store in use keeps its indices

Commands are computations that change the store in place, and nothing undoes what a failed one has
done. That an update of the aliases is carried out as a whole or not at all is therefore a property
of its order: all actions are looked at before the first is carried out, and carrying out an action
creates and removes no index, so none can fail halfway (`perform_updateAliases`).

Main statement: what a store keeps through any run of commands (`Store.after_keeps`). Aliases are
of existing indices, indices stay with their documents, and a command that fails leaves no trace.
-/

namespace LogSearch

variable {store : Store} {index name : String}

/-! ## Computations -/

namespace Store

theorem perform_check (store : Store) (action : AliasAction) :
    (StoreM.check action).perform store
      = (if store.hasIndex action.index then .ok ()
          else .error (.api 404 ("no such index [" ++ action.index ++ "]")), store) := by
  unfold StoreM.check
  rw [Stateful.perform_bind, Stateful.perform_get]
  dsimp only
  split <;> rfl

/-- Looking at actions changes nothing; the first whose index does not exist decides. -/
theorem perform_forM_check (store : Store) (actions : List AliasAction) :
    (actions.forM StoreM.check).perform store
      = (match actions.find? fun action => !store.hasIndex action.index with
          | some action => .error (.api 404 ("no such index [" ++ action.index ++ "]"))
          | none => .ok (), store) := by
  induction actions with
  | nil => rfl
  | cons action actions ih =>
    rw [List.forM, Stateful.perform_bind, perform_check]
    cases h : store.hasIndex action.index with
    | false => simp [h]
    | true =>
      rw [List.find?_cons_of_neg (by simp [h])]
      exact ih

theorem perform_forM_apply (store : Store) (actions : List AliasAction) :
    (actions.forM StoreM.apply).perform store
      = (.ok (), { store with aliases := actions.foldl applyAction store.aliases }) := by
  induction actions generalizing store with
  | nil => rfl
  | cons action actions ih =>
    rw [List.forM, Stateful.perform_bind, StoreM.apply, Stateful.perform_modify]
    exact ih _

/-- **An update of the aliases is carried out as a whole or not at all.** -/
theorem perform_updateAliases (store : Store) (actions : List AliasAction) :
    (StoreM.updateAliases actions).perform store
      = match store.updateAliases actions with
        | .ok after => (.ok (), after)
        | .error e => (.error e, store) := by
  rw [StoreM.updateAliases, Stateful.perform_bind, perform_forM_check, Store.updateAliases]
  cases actions.find? fun action => !store.hasIndex action.index with
  | some action => rfl
  | none => exact perform_forM_apply store actions

/-- An update either fails or finds all indices of its actions. -/
theorem updateAliases_cases (store : Store) (actions : List AliasAction) :
    (∃ e, store.updateAliases actions = .error e)
    ∨ (∀ action ∈ actions, store.hasIndex action.index)
      ∧ store.updateAliases actions
        = .ok { store with aliases := actions.foldl applyAction store.aliases } := by
  by_cases hall : ∀ action ∈ actions, store.hasIndex action.index
  · exact Or.inr ⟨hall, updateAliases_eq_ok hall⟩
  · left
    cases hfind : actions.find? fun action => !store.hasIndex action.index with
    | some action => exact ⟨_, by rw [Store.updateAliases, hfind]⟩
    | none => exact absurd (by simpa using hfind) hall

theorem updateAliases_fails_iff {actions : List AliasAction} :
    (∃ e, store.updateAliases actions = .error e)
      ↔ ∃ action ∈ actions, store.hasIndex action.index = false := by
  constructor
  · rintro ⟨e, he⟩
    apply Classical.byContradiction
    intro hnone
    have hall : ∀ action ∈ actions, store.hasIndex action.index := by simpa using hnone
    rw [updateAliases_eq_ok hall] at he
    cases he
  · rintro ⟨action, hmem, hmissing⟩
    rcases updateAliases_cases store actions with herror | ⟨hall, -⟩
    · exact herror
    · rw [hall action hmem] at hmissing
      cases hmissing

/-! ## Commands -/

end Store

/-- The actions on the aliases that a command asks for. -/
def StoreCommand.actions : StoreCommand → List AliasAction
  | .createIndex _ => []
  | .updateAliases actions => actions
  | .cycleAlias name new old => cycleActions name new old
  | .search _ _ => []

namespace Store

/-- A command on aliases is an update by its actions. -/
theorem perform_aliasCommand {command : StoreCommand}
    (h : command.run = (do StoreM.updateAliases command.actions; return none)) (store : Store) :
    command.run.perform store
      = match store.updateAliases command.actions with
        | .ok after => (.ok none, after)
        | .error e => (.error e, store) := by
  rw [h, Stateful.perform_bind, perform_updateAliases]
  cases store.updateAliases command.actions <;> rfl

/-- A search changes nothing. -/
theorem perform_search (store : Store) (names : List String) (body : Json) :
    (StoreCommand.search names body).run.perform store
      = ((store.search names body).map some, store) := by
  have hsearch : (StoreM.search names body).perform store = (store.search names body, store) := by
    unfold StoreM.search
    rw [Stateful.perform_bind, Stateful.perform_get]
    dsimp only
    cases store.search names body <;> rfl
  show (StoreM.search names body >>= fun response => pure (some response)).perform store = _
  rw [Stateful.perform_bind, hsearch]
  cases store.search names body <;> rfl

/-- What a command may do to a store: nothing, or it creates an index, or it carries out all its
actions on the aliases, and then their indices exist. -/
inductive Changes (command : StoreCommand) (store : Store) : Store → Prop
  | nothing : Changes command store store
  | index (index : String) (h : command = .createIndex index) :
    Changes command store (store.createIndex index)
  | aliases (h : ∀ action ∈ command.actions, store.hasIndex action.index) :
    Changes command store
      { store with aliases := command.actions.foldl applyAction store.aliases }

/-- **A command that fails does nothing.** -/
theorem perform_changes (store : Store) (command : StoreCommand) :
    Changes command store (command.run.perform store).2
    ∧ ((∃ e, (command.run.perform store).1 = .error e) →
        (command.run.perform store).2 = store) := by
  have halias (h : command.run = (do StoreM.updateAliases command.actions; return none)) :
      Changes command store (command.run.perform store).2
      ∧ ((∃ e, (command.run.perform store).1 = .error e)
        → (command.run.perform store).2 = store) := by
    rw [perform_aliasCommand h]
    rcases updateAliases_cases store command.actions with ⟨e, he⟩ | ⟨hall, hok⟩
    · rw [he]
      exact ⟨.nothing, fun _ => rfl⟩
    · rw [hok]
      refine ⟨.aliases hall, ?_⟩
      rintro ⟨e, he⟩
      cases he
  cases command with
  | createIndex index =>
    refine ⟨.index index rfl, ?_⟩
    rintro ⟨e, he⟩
    cases he
  | updateAliases actions => exact halias rfl
  | cycleAlias name new old => exact halias rfl
  | search names body =>
    rw [perform_search]
    exact ⟨.nothing, fun _ => rfl⟩

/-! ## What is kept -/

/-- Every alias is of an existing index. -/
def Closed (store : Store) : Prop := ∀ pair ∈ store.aliases, store.hasIndex pair.2

/-- A later store has the indices of an earlier one, and their documents, and sorts as it does. -/
structure Extends (later store : Store) : Prop where
  hasIndex : ∀ index, store.hasIndex index → later.hasIndex index
  documents : ∀ index, later.documents index = store.documents index
  sorter : later.sorter = store.sorter

theorem Extends.refl (store : Store) : store.Extends store := ⟨fun _ h => h, fun _ => rfl, rfl⟩

theorem Extends.trans {last later : Store} (h : last.Extends later) (h' : later.Extends store) :
    last.Extends store where
  hasIndex index hindex := h.hasIndex index (h'.hasIndex index hindex)
  documents index := (h.documents index).trans (h'.documents index)
  sorter := h.sorter.trans h'.sorter

/-- A new index is empty, and documents of an index that does not exist are none. -/
theorem createIndex_extends (store : Store) (index : String) :
    (store.createIndex index).Extends store where
  hasIndex other h := by
    unfold hasIndex createIndex at *
    by_cases hother : other = index
    · rw [hother, Keyed.get?_update_self]
      rfl
    · rwa [Keyed.get?_update_of_ne hother]
  documents other := by
    unfold documents createIndex
    by_cases hother : other = index
    · rw [hother, Keyed.get?_update_self]
      rfl
    · rw [Keyed.get?_update_of_ne hother]
  sorter := rfl

/-- Actions only put aliases on the indices that they name. -/
theorem mem_foldl_applyAction {pair : String × String} {actions : List AliasAction}
    {aliases : List (String × String)} (h : pair ∈ actions.foldl applyAction aliases) :
    pair ∈ aliases ∨ ∃ action ∈ actions, pair.2 = action.index := by
  induction actions generalizing aliases with
  | nil => exact Or.inl h
  | cons action actions ih =>
    rcases ih h with hmem | ⟨other, hother, hindex⟩
    · cases action with
      | add index name =>
        rcases Keyed.mem_insert hmem with rfl | hmem
        · exact Or.inr ⟨_, List.mem_cons_self, rfl⟩
        · exact Or.inl hmem
      | remove index name =>
        rw [applyAction] at hmem
        by_cases hon : Keyed.get? name aliases = some index
        · rw [if_pos hon] at hmem
          exact Or.inl (List.mem_filter.mp hmem).1
        · rw [if_neg hon] at hmem
          exact Or.inl hmem
    · exact Or.inr ⟨other, List.mem_cons_of_mem _ hother, hindex⟩

namespace Changes

variable {command : StoreCommand} {after : Store}

theorem toExtends (h : Changes command store after) : after.Extends store := by
  cases h with
  | nothing => exact Extends.refl store
  | index index => exact createIndex_extends store index
  | aliases => exact ⟨fun _ h => h, fun _ => rfl, rfl⟩

theorem closed (h : Changes command store after) (hclosed : store.Closed) : after.Closed := by
  intro pair hmem
  cases h with
  | nothing => exact hclosed pair hmem
  | index index => exact (createIndex_extends store index).hasIndex _ (hclosed pair hmem)
  | aliases hall =>
    show store.hasIndex pair.2
    rcases mem_foldl_applyAction hmem with hmem | ⟨action, haction, hindex⟩
    · exact hclosed pair hmem
    · rw [hindex]
      exact hall action haction

end Changes

/-! ## Runs -/

theorem after_cons (store : Store) (command : StoreCommand) (commands : List StoreCommand) :
    store.after (command :: commands) = (command.run.perform store).2.after commands := rfl

theorem after_extends (store : Store) (commands : List StoreCommand) :
    (store.after commands).Extends store := by
  induction commands generalizing store with
  | nil => exact Extends.refl store
  | cons command commands ih =>
    exact (ih _).trans (perform_changes store command).1.toExtends

theorem Closed.after (h : store.Closed) (commands : List StoreCommand) :
    (store.after commands).Closed := by
  induction commands generalizing store with
  | nil => exact h
  | cons command commands ih => exact ih ((perform_changes store command).1.closed h)

/-- How a store comes into being: empty, or with documents in one index. -/
inductive IsInitial : Store → Prop
  | empty (sorter : Sorter) : IsInitial (.empty sorter)
  | ofDocuments {sorter : Sorter} {index : String} {sources : List Json} {store : Store}
    (h : ofDocuments sorter index sources = .ok store) : IsInitial store

theorem IsInitial.closed (h : store.IsInitial) : store.Closed := by
  have hnone : store.aliases = [] := by
    cases h with
    | empty sorter => rfl
    | ofDocuments h =>
      rw [Store.ofDocuments] at h
      cases hdocuments : List.mapM Document.ofSource _ with
      | error e =>
        rw [hdocuments] at h
        cases h
      | ok documents =>
        rw [hdocuments] at h
        cases h
        rfl
  intro pair hmem
  rw [hnone] at hmem
  cases hmem

/-- A document of the epoch can be loaded into an index. -/
theorem isInitial_epoch (sorter : Sorter) (index : String) : IsInitial
    ⟨[(index, [⟨.epoch, [("timestamp", .str "1970-01-01 00:00:00.000")]⟩])], [], sorter⟩ := by
  have hstamp : Instant.readStamp? "1970-01-01 00:00:00.000" = some .epoch := by decide +kernel
  have hdocument : Document.ofSource (.obj [("timestamp", .str "1970-01-01 00:00:00.000")])
      = .ok ⟨.epoch, [("timestamp", .str "1970-01-01 00:00:00.000")]⟩ := by
    simp [Document.ofSource, Keyed.get?, Json.toText?, hstamp]
  have hloaded : Store.ofDocuments sorter index
      [.obj [("timestamp", .str "1970-01-01 00:00:00.000")]]
      = .ok ⟨[(index, [⟨.epoch, [("timestamp", .str "1970-01-01 00:00:00.000")]⟩])], [],
        sorter⟩ := by
    rw [Store.ofDocuments, List.mapM_cons, hdocument]
    rfl
  exact .ofDocuments hloaded

/-- **Through any run, aliases are of existing indices, indices stay with their documents, and what
fails leaves no trace.** An update of the aliases fails exactly if one of its actions, of whichever
kind and wherever it stands, names an index that does not exist. -/
theorem after_keeps {start : Store} (hstart : start.IsInitial) (commands : List StoreCommand) :
    let store := start.after commands
    (∀ pair ∈ store.aliases, store.hasIndex pair.2)
    ∧ (∀ more index, store.hasIndex index → (store.after more).hasIndex index)
    ∧ (∀ more index, (store.after more).documents index = store.documents index)
    ∧ (∀ actions, (∃ e, ((StoreM.updateAliases actions).perform store).1 = .error e)
        ↔ ∃ action ∈ actions, store.hasIndex action.index = false)
    ∧ ∀ command : StoreCommand, (∃ e, (command.run.perform store).1 = .error e) →
        (command.run.perform store).2 = store := by
  intro store
  have hextends := after_extends store
  refine ⟨hstart.closed.after commands, fun more => (hextends more).hasIndex,
    fun more => (hextends more).documents, fun actions => ?_,
    fun command => (perform_changes _ command).2⟩
  rw [perform_updateAliases, ← updateAliases_fails_iff]
  cases store.updateAliases actions <;> simp

/-- An alias is put on an index with a document and moved to an empty one. An update that would
take it off and then fails at its second action leaves it there. -/
theorem after_keeps_moved :
    let start : Store :=
      ⟨[("a_0", [⟨.epoch, [("timestamp", .str "1970-01-01 00:00:00.000")]⟩])], [], .insertion 20⟩
    let commands : List StoreCommand :=
      [.createIndex "b_0", .updateAliases [.add "a_0" "w"], .cycleAlias "w" "b_0" (some "a_0")]
    let broken : List AliasAction := [.remove "b_0" "w", .add "c_0" "w"]
    start.IsInitial
      ∧ (start.after commands).aliases = [("w", "b_0")]
      ∧ (start.after commands).hasIndex "b_0"
      ∧ (∃ e, ((StoreM.updateAliases broken).perform (start.after commands)).1 = .error e)
      ∧ ((StoreCommand.updateAliases broken).run.perform (start.after commands)).2
        = start.after commands
      ∧ ((start.after commands).after [.updateAliases broken]).documents "a_0"
        = (start.after commands).documents "a_0" := by
  intro start commands broken
  have hstart : start.IsInitial := isInitial_epoch _ "a_0"
  have haliases : (start.after commands).aliases = [("w", "b_0")] := rfl
  obtain ⟨hclosed, -, hdocuments, hfails, htrace⟩ := after_keeps hstart commands
  have hfail : ∃ e, ((StoreM.updateAliases broken).perform (start.after commands)).1 = .error e :=
    (hfails broken).mpr ⟨.add "c_0" "w", by simp [broken], rfl⟩
  refine ⟨hstart, haliases, hclosed ("w", "b_0") (by rw [haliases]; simp), hfail, ?_,
    hdocuments _ "a_0"⟩
  exact htrace (.updateAliases broken) ⟨_, rfl⟩

end Store

end LogSearch
