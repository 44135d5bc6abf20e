import Mathlib
import LogSearch.Command.Run
import LogSearch.Proofs.Stateful
import LogSearch.Proofs.Store.Alias

/-!
# Aliases of several indices

A cluster may attach an alias to several indices. What it keeps is a set of pairs of an alias and an
index (`Attachments`); the actions of a request change it one after the other, and a question about an
alias is replied to with its indices (`Attachments.serve`).

The command that moves an alias asks for its indices first and has room for one: of several the least
is the one that the alias is taken off.

Main statement: what the alias is attached to in the end (`Machine.cycleAlias_attaches`). The indices
beside the new one and the least one stay, so an alias of several indices does not move as a whole.
The new index must not be the least one: that one is taken off last.
-/

namespace LogSearch

/-! ## What a cluster keeps -/

/-- The pairs of an alias and an index that it is attached to. -/
abbrev Attachments := Finset (String × String)

namespace Attachments

variable {pairs : Attachments} {name index : String}

/-- The indices of an alias. -/
def indicesOf (name : String) (pairs : Attachments) : Finset String :=
  (pairs.filter fun pair => pair.1 = name).image Prod.snd

/-- What an action leaves. -/
def apply (pairs : Attachments) : AliasAction → Attachments
  | .add index name => insert (name, index) pairs
  | .remove index name => pairs.erase (name, index)

theorem mem_indicesOf : index ∈ indicesOf name pairs ↔ (name, index) ∈ pairs := by
  simp [indicesOf]

theorem indicesOf_add (pairs : Attachments) (index name : String) :
    indicesOf name (apply pairs (.add index name)) = insert index (indicesOf name pairs) := by
  ext other
  simp [apply, mem_indicesOf]

theorem indicesOf_remove (pairs : Attachments) (index name : String) :
    indicesOf name (apply pairs (.remove index name)) = (indicesOf name pairs).erase index := by
  ext other
  simp [apply, mem_indicesOf]

/-- An action leaves the other aliases alone. -/
theorem indicesOf_apply_of_ne {action : AliasAction} (h : name ≠ action.name)
    (pairs : Attachments) : indicesOf name (apply pairs action) = indicesOf name pairs := by
  ext other
  cases action with
  | add index own =>
    have hne : name ≠ own := h
    simp [apply, mem_indicesOf, hne]
  | remove index own =>
    have hne : name ≠ own := h
    simp [apply, mem_indicesOf, hne]

/-- **Actions leave the aliases alone that they do not name.** -/
theorem indicesOf_foldl_of_ne {actions : List AliasAction}
    (h : ∀ action ∈ actions, name ≠ action.name) (pairs : Attachments) :
    indicesOf name (actions.foldl apply pairs) = indicesOf name pairs := by
  induction actions generalizing pairs with
  | nil => rfl
  | cons action actions ih =>
    rw [List.foldl_cons, ih (fun other hother => h other (List.mem_cons_of_mem _ hother)),
      indicesOf_apply_of_ne (h action List.mem_cons_self)]

/-- Moving an alias attaches it to the new index and then takes it off the old one. -/
theorem indicesOf_cycleActions (pairs : Attachments) (name new : String) (old : Option String) :
    indicesOf name ((cycleActions name new old).foldl apply pairs)
      = (insert new (indicesOf name pairs)).filter fun index => some index ≠ old := by
  cases old with
  | none => simp [cycleActions, indicesOf_add]
  | some old =>
    simp only [cycleActions, Option.map_some, Option.toList_some, List.foldl_cons, List.foldl_nil,
      indicesOf_remove, indicesOf_add]
    ext index
    simp [and_comm]

/-! ## How a cluster serves requests -/

/-- The actions that a request carries. -/
def actionsOf? (content : Json) : Option (List AliasAction) :=
  (content.get? "actions").bind (Json.toList? AliasAction.ofJson?)

/-- A cluster that carries out the actions on its aliases one after the other. How it replies to a
question is left open. -/
def serve (cluster : Cluster) (listing : Attachments → (url : String) → HttpReply) :
    Transport (StateM Attachments) := fun request => do
  if request.method = .post ∧ request.url = cluster.url ["_aliases".toList] then
    match request.content.bind actionsOf? with
    | some actions =>
      modify fun pairs => actions.foldl apply pairs
      return .ok ⟨200, ""⟩
    | none => return .ok ⟨400, ""⟩
  else return .ok (listing (← get) request.url)

/-- Actions come back from structured data. -/
theorem actionsOf?_toJson (actions : List AliasAction) :
    actionsOf? (.obj [("actions", .arr (actions.map AliasAction.toJson))]) = some actions := by
  have haction : ∀ action : AliasAction, AliasAction.ofJson? action.toJson = some action := by
    rintro (⟨index, name⟩ | ⟨index, name⟩) <;> rfl
  have hactions : (actions.map AliasAction.toJson).mapM AliasAction.ofJson? = some actions := by
    induction actions with
    | nil => rfl
    | cons action actions ih => rw [List.map_cons, List.mapM_cons, haction, ih]; rfl
  exact hactions

/-- A request for changes is carried out. -/
theorem serve_updateAliases (cluster : Cluster) (listing : Attachments → String → HttpReply)
    (actions : List AliasAction) (pairs : Attachments) :
    (serve cluster listing (cluster.updateAliases actions).request).run pairs
      = (.ok ⟨200, ""⟩, actions.foldl apply pairs) := by
  rw [serve, if_pos ⟨rfl, rfl⟩]
  simp only [Cluster.updateAliases, Option.bind_some, actionsOf?_toJson]
  rfl

/-- A question about an alias changes nothing. -/
theorem serve_aliasTarget (cluster : Cluster) (listing : Attachments → String → HttpReply)
    (name : String) (pairs : Attachments) :
    (serve cluster listing (cluster.aliasTarget name).request).run pairs
      = (.ok (listing pairs (cluster.aliasTarget name).request.url), pairs) := by
  rw [serve, if_neg (fun h => by cases h.1)]
  rfl

end Attachments

/-! ## The least of several indices -/

/-- The least of several indices, or nothing if there are none. -/
def LeastOf (indices : Finset String) : Option String → Prop
  | none => indices = ∅
  | some least => least ∈ indices ∧ ∀ index ∈ indices, least ≤ index

/-- All indices but the least. -/
def withoutLeast (indices : Finset String) : Finset String :=
  indices.filter fun index => ∃ other ∈ indices, other < index

/-- **Of several names the least is taken.** -/
theorem Cluster.leastOf_leastName (names : List String) :
    LeastOf names.toFinset (leastName names) := by
  induction names with
  | nil => rfl
  | cons name names ih =>
    rw [leastName, List.toFinset_cons]
    cases hleast : leastName names with
    | none =>
      rw [hleast] at ih
      rw [show names.toFinset = ∅ from ih]
      exact ⟨Finset.mem_insert_self _ _, fun other hother => (Finset.mem_singleton.mp hother).ge⟩
    | some least =>
      rw [hleast] at ih
      obtain ⟨hmem, hle⟩ := ih
      by_cases hlt : least < name
      · simp only [if_pos hlt]
        refine ⟨Finset.mem_insert_of_mem hmem, fun other hother => ?_⟩
        rcases Finset.mem_insert.mp hother with rfl | hother
        · exact hlt.le
        · exact hle other hother
      · simp only [if_neg hlt]
        refine ⟨Finset.mem_insert_self _ _, fun other hother => ?_⟩
        rcases Finset.mem_insert.mp hother with rfl | hother
        · exact le_rfl
        · exact (not_lt.mp hlt).trans (hle other hother)

section

variable {indices : Finset String} {new : String} {old : Option String}

theorem mem_withoutLeast {index : String} :
    index ∈ withoutLeast indices ↔ index ∈ indices ∧ ∃ other ∈ indices, other < index :=
  Finset.mem_filter

/-- What is left, where the new index is not the least one. -/
theorem LeastOf.filter_insert (h : LeastOf indices old)
    (hnew : new ∈ indices → ∃ index ∈ indices, index < new) :
    ((insert new indices).filter fun index => some index ≠ old)
      = insert new (withoutLeast indices) := by
  cases old with
  | none =>
    obtain rfl : indices = ∅ := h
    rfl
  | some least =>
    obtain ⟨hmem, hle⟩ := h
    have hne : new ≠ least := by
      rintro rfl
      obtain ⟨index, hindex, hlt⟩ := hnew hmem
      exact absurd (hle index hindex) (not_le.mpr hlt)
    ext index
    simp only [Finset.mem_filter, Finset.mem_insert, mem_withoutLeast, ne_eq, Option.some.injEq]
    constructor
    · rintro ⟨rfl | hindex, hother⟩
      · exact .inl rfl
      · exact .inr ⟨hindex, least, hmem, lt_of_le_of_ne (hle index hindex) (Ne.symm hother)⟩
    · rintro (rfl | ⟨hindex, other, hother, hlt⟩)
      · exact ⟨.inl rfl, hne⟩
      · refine ⟨.inr hindex, ?_⟩
        rintro rfl
        exact absurd (hle other hother) (not_le.mpr hlt)

/-- Only the new index is left if there is at most one beside it. -/
theorem insert_withoutLeast_eq_singleton
    (hnew : new ∈ indices → ∃ index ∈ indices, index < new) :
    insert new (withoutLeast indices) = {new} ↔ (indices.erase new).card ≤ 1 := by
  rw [Finset.card_le_one]
  constructor
  · intro h a ha b hb
    have hlater : ∀ index ∈ indices.erase new, ∀ other ∈ indices, ¬other < index := by
      intro index hindex other hother hlt
      have hmem : index ∈ insert new (withoutLeast indices) := Finset.mem_insert_of_mem
        (mem_withoutLeast.mpr ⟨Finset.mem_of_mem_erase hindex, other, hother, hlt⟩)
      rw [h, Finset.mem_singleton] at hmem
      exact Finset.ne_of_mem_erase hindex hmem
    exact le_antisymm (not_lt.mp (hlater a ha b (Finset.mem_of_mem_erase hb)))
      (not_lt.mp (hlater b hb a (Finset.mem_of_mem_erase ha)))
  · intro h
    refine Finset.eq_singleton_iff_unique_mem.mpr ⟨Finset.mem_insert_self _ _, ?_⟩
    intro index hindex
    rcases Finset.mem_insert.mp hindex with heq | hindex
    · exact heq
    obtain ⟨hindex, other, hother, hlt⟩ := mem_withoutLeast.mp hindex
    by_contra hne
    -- there is an earlier index beside the new one, which would have to be this one
    obtain ⟨earlier, hearlier, hbefore⟩ : ∃ earlier ∈ indices.erase new, earlier < index := by
      by_cases hsame : other = new
      · obtain ⟨first, hfirst, hfirstlt⟩ := hnew (hsame ▸ hother)
        exact ⟨first, Finset.mem_erase.mpr ⟨hfirstlt.ne, hfirst⟩, hfirstlt.trans (hsame ▸ hlt)⟩
      · exact ⟨other, Finset.mem_erase.mpr ⟨hsame, hother⟩, hlt⟩
    exact hbefore.ne (h earlier hearlier index (Finset.mem_erase.mpr ⟨hne, hindex⟩))

end

/-! ## Replies -/

/-- A reply that lists indices: none by saying that there is no such alias, others as the keys of an
object, in any order. -/
inductive HttpReply.Lists (reply : HttpReply) : Finset String → Prop where
  | nothing (h : reply.isNotFound) : Lists reply ∅
  | keys {fields : List (String × Json)} (hsuccess : reply.isSuccess)
    (hfields : (Json.parse? reply.content).bind Json.fields? = some fields) :
    Lists reply (fields.map Prod.fst).toFinset

/-- **The command learns the least of the indices that are listed.** -/
theorem Cluster.readTarget_of_lists {reply : HttpReply} {indices : Finset String}
    (h : reply.Lists indices) : ∃ old, readTarget reply = .ok old ∧ LeastOf indices old := by
  cases h with
  | nothing h =>
    have hfail : reply.isSuccess = false := by
      rw [HttpReply.isNotFound, beq_iff_eq] at h
      rw [HttpReply.isSuccess, h]
      rfl
    exact ⟨none, by simp [readTarget, hfail, h], rfl⟩
  | @keys fields hsuccess hfields =>
    exact ⟨leastName (fields.map Prod.fst), by simp [readTarget, hsuccess, hfields],
      leastOf_leastName _⟩

/-- A reply that lists names in an order. -/
def HttpReply.listed (names : List String) : HttpReply :=
  ⟨200, (Json.obj (names.map fun name => (name, .obj []))).render⟩

theorem HttpReply.lists_listed {names : List String}
    (h : ((Json.parse? (listed names).content).bind Json.fields?).map (List.map Prod.fst)
      = some names) : (listed names).Lists names.toFinset := by
  obtain ⟨fields, hfields, hnames⟩ := Option.map_eq_some_iff.mp h
  have hlists := HttpReply.Lists.keys (show (listed names).isSuccess from rfl) hfields
  rwa [hnames] at hlists

/-! ## Moving an alias -/

namespace Machine

open Attachments

/-- What an exchange gives, and what it leaves of the state behind the transport. -/
theorem perform_exchange {σ α : Type} (machine : Machine (StateM σ)) (exchange : Exchange α)
    (state : σ) :
    Stateful.perform (machine.exchange exchange) state
      = ((exchange.finish ((machine.transport exchange.request).run state).1).mapError
          CommandError.backend, ((machine.transport exchange.request).run state).2) := by
  have hlift : Stateful.perform (liftM (exchange.run machine.transport) :
      Stateful σ CommandError (Except BackendError α)) state
      = (.ok (exchange.finish ((machine.transport exchange.request).run state).1),
        ((machine.transport exchange.request).run state).2) := rfl
  rw [Machine.exchange, Stateful.perform_bind, hlift]
  dsimp only
  cases exchange.finish ((machine.transport exchange.request).run state).1 <;> rfl

/-- A machine with nothing but a cluster. -/
def bare (transport : Transport (StateM Attachments)) : Machine (StateM Attachments) where
  environment _ := none
  now := pure .epoch
  fileText _ := pure none
  saveFile _ _ := pure false
  openLog _ := pure false
  transport := transport

variable {machine : Machine (StateM Attachments)} {settings : Settings}
  {listing : Attachments → (url : String) → HttpReply}

/-- The cluster of some settings. -/
abbrev clusterOf (settings : Settings) : Cluster := .ofUrl settings.cluster.url

/-- **What the command leaves**: the actions of the move are carried out, away from the least of the
indices that are listed. -/
theorem perform_cycleAlias {name : String} {pairs : Attachments} (new : String)
    (hserve : machine.transport = serve (clusterOf settings) listing)
    (hlists : (listing pairs ((clusterOf settings).aliasTarget name).request.url).Lists
      (indicesOf name pairs)) :
    ∃ old, LeastOf (indicesOf name pairs) old
      ∧ Stateful.perform (machine.cycleAlias settings name new) pairs
        = (.ok (name ++ " -> " ++ new ++ " (was " ++ old.getD "unset" ++ ")\n"),
          (cycleActions name new old).foldl apply pairs) := by
  obtain ⟨old, hread, hold⟩ := Cluster.readTarget_of_lists hlists
  have hasked : Stateful.perform (machine.exchange ((clusterOf settings).aliasTarget name)) pairs
      = (.ok old, pairs) := by
    rw [perform_exchange, hserve, serve_aliasTarget]
    exact congrArg (fun result => (Except.mapError CommandError.backend result, pairs)) hread
  have hmoved : Stateful.perform (machine.exchange ((clusterOf settings).cycleAlias name new old))
      pairs = (.ok (), (cycleActions name new old).foldl apply pairs) := by
    rw [perform_exchange, hserve, Cluster.cycleAlias, serve_updateAliases]
    rfl
  refine ⟨old, hold, ?_⟩
  rw [Machine.cycleAlias, Stateful.perform_bind, hasked]
  dsimp only
  rw [Stateful.perform_bind, hmoved]
  rfl

/-- **What a moved alias is attached to**: the new index, and every index that it was attached to
except the least of them. So it is moved as a whole if it had at most one index beside the new one.
The other aliases keep theirs. -/
theorem cycleAlias_attaches (machine : Machine (StateM Attachments)) (settings : Settings)
    (listing : Attachments → (url : String) → HttpReply) (name new : String) (pairs : Attachments)
    (hserve : machine.transport = serve (clusterOf settings) listing)
    (hlists : (listing pairs ((clusterOf settings).aliasTarget name).request.url).Lists
      (indicesOf name pairs))
    (hnew : new ∈ indicesOf name pairs → ∃ index ∈ indicesOf name pairs, index < new) :
    ∃ output after, Stateful.perform (machine.cycleAlias settings name new) pairs
        = (.ok output, after)
      ∧ indicesOf name after = insert new (withoutLeast (indicesOf name pairs))
      ∧ (indicesOf name after = {new} ↔ ((indicesOf name pairs).erase new).card ≤ 1)
      ∧ ∀ other, other ≠ name → indicesOf other after = indicesOf other pairs := by
  obtain ⟨old, hold, hrun⟩ := perform_cycleAlias new hserve hlists
  have hafter := indicesOf_cycleActions pairs name new old
  rw [hold.filter_insert hnew] at hafter
  refine ⟨_, _, hrun, hafter, ?_, fun other hother => ?_⟩
  · rw [hafter]
    exact insert_withoutLeast_eq_singleton hnew
  · refine indicesOf_foldl_of_ne (fun action haction => ?_) pairs
    rw [(Store.name_of_mem_cycleActions haction).1]
    exact hother

/-- Of two indices the later one is the new one already, and stays alone. -/
theorem cycleAlias_attaches_second :
    let settings := Settings.default fun _ => none
    let reply := HttpReply.listed ["b_0", "a_0"]
    let machine := bare (serve (clusterOf settings) fun _ _ => reply)
    let pairs : Attachments := {("w", "a_0"), ("w", "b_0"), ("v", "a_0")}
    reply.Lists (indicesOf "w" pairs)
      ∧ ("b_0" ∈ indicesOf "w" pairs → ∃ index ∈ indicesOf "w" pairs, index < "b_0")
      ∧ ∃ output after, Stateful.perform (machine.cycleAlias settings "w" "b_0") pairs
          = (.ok output, after)
        ∧ indicesOf "w" after = {"b_0"} ∧ indicesOf "v" after = {"a_0"} := by
  intro settings reply machine pairs
  have hindices : indicesOf "w" pairs = ["b_0", "a_0"].toFinset := by decide
  have hlists : reply.Lists (indicesOf "w" pairs) :=
    hindices ▸ HttpReply.lists_listed (by decide +kernel)
  have hnew : "b_0" ∈ indicesOf "w" pairs → ∃ index ∈ indicesOf "w" pairs, index < "b_0" :=
    fun _ => ⟨"a_0", by decide, by decide⟩
  obtain ⟨output, after, hrun, _, hwhole, hothers⟩ :=
    cycleAlias_attaches machine settings (fun _ _ => reply) "w" "b_0" pairs rfl hlists hnew
  refine ⟨hlists, hnew, output, after, hrun, hwhole.mpr ?_, ?_⟩
  · rw [hindices]
    decide
  · rw [hothers "v" (by decide)]
    decide

/-- An alias of two indices that is moved to a third stays on the later one, and an alias that is
moved to its only index is lost: neither is on the new index alone. -/
theorem cycleAlias_keeps_second :
    let settings := Settings.default fun _ => none
    let machine (names : List String) :=
      bare (serve (clusterOf settings) fun _ _ => .listed names)
    let two : Attachments := {("w", "a_0"), ("w", "b_0")}
    let one : Attachments := {("w", "a_0")}
    (HttpReply.listed ["b_0", "a_0"]).Lists (indicesOf "w" two)
      ∧ (∃ output after, Stateful.perform
            ((machine ["b_0", "a_0"]).cycleAlias settings "w" "c_0") two = (.ok output, after)
          ∧ indicesOf "w" after ≠ {"c_0"})
      ∧ (HttpReply.listed ["a_0"]).Lists (indicesOf "w" one)
      ∧ ∃ output after, Stateful.perform
            ((machine ["a_0"]).cycleAlias settings "w" "a_0") one = (.ok output, after)
          ∧ indicesOf "w" after ≠ {"a_0"} := by
  intro settings machine two one
  have htwo : indicesOf "w" two = ["b_0", "a_0"].toFinset := by decide
  have hone : indicesOf "w" one = ["a_0"].toFinset := by decide
  have hlists : (HttpReply.listed ["b_0", "a_0"]).Lists (indicesOf "w" two) :=
    htwo ▸ HttpReply.lists_listed (by decide +kernel)
  have hlist : (HttpReply.listed ["a_0"]).Lists (indicesOf "w" one) :=
    hone ▸ HttpReply.lists_listed (by decide +kernel)
  have hserve : ∀ names, (machine names).transport
      = serve (clusterOf settings) fun _ _ => .listed names := fun _ => rfl
  obtain ⟨old, hold, hrun⟩ := perform_cycleAlias "c_0" (hserve _) hlists
  obtain ⟨only, honly, hlost⟩ := perform_cycleAlias "a_0" (hserve _) hlist
  refine ⟨hlists, ⟨_, _, hrun, fun hwhole => ?_⟩, hlist, _, _, hlost, fun hwhole => ?_⟩
  · -- the later index is not the one that the alias is taken off
    have hkept : "b_0" ∈ indicesOf "w" ((cycleActions "w" "c_0" old).foldl apply two) := by
      rw [indicesOf_cycleActions, Finset.mem_filter]
      refine ⟨by decide, ?_⟩
      rintro rfl
      exact absurd (hold.2 "a_0" (by decide)) (by decide)
    rw [hwhole] at hkept
    revert hkept
    decide
  · -- the only index is the one that the alias is taken off
    have hmem : "a_0" ∈ indicesOf "w" ((cycleActions "w" "a_0" only).foldl apply one) := by
      rw [hwhole]
      decide
    rw [indicesOf_cycleActions, Finset.mem_filter] at hmem
    cases only with
    | none => exact absurd honly (by rw [LeastOf, hone]; decide)
    | some least =>
      have hleast : least = "a_0" := by simpa [hone] using honly.1
      exact hmem.2 (congrArg some hleast.symm)

end Machine

end LogSearch
