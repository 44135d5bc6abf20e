import Mathlib
import LogSearch.Proofs.Store.Counting
import LogSearch.Proofs.Store.Histogram
import LogSearch.Store.Aggregation

/-!
# What a grouping by value says

A document is put into one group for each identity among its values. `Grouped` says of groups that
they have different identities and that each holds the documents that were put there, in their
order; putting one document into one group keeps this (`put_grouped`), so it holds at the end
(`ofDocuments_grouped`).

Main statements: a group has the documents with its identity as its members (`members_eq_filter`),
and the groups together have as many members as the documents have identities
(`sum_length_members`). The bucket of a group says that of it, together with what the aggregations
inside give.
-/

namespace LogSearch

/-! ## Identities of documents -/

/-- Of the terms of a list each identity is kept once, and none that came before. -/
theorem nodup_distinctTerms (seen : List String) (terms : List (String × Json)) :
    ((distinctTerms seen terms).map Prod.fst).Nodup
      ∧ ∀ identity ∈ (distinctTerms seen terms).map Prod.fst, identity ∉ seen := by
  induction terms generalizing seen with
  | nil => exact ⟨List.nodup_nil, fun _ h => absurd h List.not_mem_nil⟩
  | cons term terms ih =>
    rw [distinctTerms]
    by_cases hseen : term.1 ∈ seen
    · rw [if_pos (List.contains_iff_mem.mpr hseen)]
      exact ih seen
    · obtain ⟨hnodup, hlater⟩ := ih (term.1 :: seen)
      rw [if_neg (by simpa using hseen), List.map_cons]
      refine ⟨List.nodup_cons.mpr ⟨fun h => hlater _ h List.mem_cons_self, hnodup⟩, ?_⟩
      intro identity h
      rcases List.mem_cons.mp h with rfl | h
      · exact hseen
      · exact fun hmem => hlater identity h (List.mem_cons_of_mem _ hmem)

theorem mem_of_mem_distinctTerms {seen : List String} {terms : List (String × Json)}
    {term : String × Json} (h : term ∈ distinctTerms seen terms) : term ∈ terms := by
  induction terms generalizing seen with
  | nil => cases h
  | cons first terms ih =>
    rw [distinctTerms] at h
    split at h
    · exact List.mem_cons_of_mem _ (ih h)
    · rcases List.mem_cons.mp h with rfl | h
      · exact List.mem_cons_self
      · exact List.mem_cons_of_mem _ (ih h)

/-- Whether a value of a field has an identity. -/
def Document.hasTerm (document : Document) (field identity : String) : Bool :=
  (document.terms field).any fun term => term.1 = identity

namespace TermGroup

variable {document : Document} {identity : String} {key : Json} {groups : List TermGroup}
  {field : String} {documents : List Document}

/-! ## Putting one document into one group -/

/-- The group with a document more, if it is that of an identity. -/
def add (document : Document) (identity : String) (group : TermGroup) : TermGroup :=
  if group.identity = identity then { group with members := group.members ++ [document] } else group

theorem identity_add (group : TermGroup) :
    (add document identity group).identity = group.identity := by
  unfold add
  split <;> rfl

theorem key_add (group : TermGroup) : (add document identity group).key = group.key := by
  unfold add
  split <;> rfl

theorem map_identity_add (groups : List TermGroup) :
    (groups.map (add document identity)).map TermGroup.identity
      = groups.map TermGroup.identity := by
  rw [List.map_map]
  exact List.map_congr_left fun group _ => identity_add group

theorem put_of_not_mem (h : identity ∉ groups.map TermGroup.identity) :
    put document identity key groups = groups ++ [⟨identity, key, [document]⟩] := by
  induction groups with
  | nil => rfl
  | cons group groups ih =>
    rw [List.map_cons, List.mem_cons, not_or] at h
    rw [put, if_neg (Ne.symm h.1), ih h.2]
    rfl

theorem put_of_mem (hnodup : (groups.map TermGroup.identity).Nodup)
    (h : identity ∈ groups.map TermGroup.identity) :
    put document identity key groups = groups.map (add document identity) := by
  induction groups with
  | nil => cases h
  | cons group groups ih =>
    rw [List.map_cons, List.nodup_cons] at hnodup
    rw [put, List.map_cons, add]
    by_cases heq : group.identity = identity
    · -- the others have other identities
      have hothers : groups.map (add document identity) = groups := by
        refine (List.map_congr_left fun other hother => ?_).trans (List.map_id groups)
        have hne : other.identity ≠ identity := by
          rintro rfl
          exact hnodup.1 (heq ▸ List.mem_map_of_mem hother)
        rw [add, if_neg hne, id]
      rw [if_pos heq, if_pos heq, hothers]
    · have hrest : identity ∈ groups.map TermGroup.identity := by
        rcases List.mem_cons.mp h with rfl | hrest
        · exact absurd rfl heq
        · exact hrest
      rw [if_neg heq, if_neg heq, ih hnodup.2 hrest]

/-! ## Groups -/

/-- Groups that hold what was put there: a document for an identity, with the key of its value. -/
structure Grouped (placed : List (Document × String × Json)) (groups : List TermGroup) : Prop where
  nodup : (groups.map TermGroup.identity).Nodup
  members : ∀ group ∈ groups,
    group.members = (placed.filter fun entry => entry.2.1 = group.identity).map Prod.fst
  known : ∀ group ∈ groups, ∃ document, (document, group.identity, group.key) ∈ placed
  complete : ∀ entry ∈ placed, entry.2.1 ∈ groups.map TermGroup.identity

theorem grouped_nil : Grouped [] [] where
  nodup := List.nodup_nil
  members _ h := absurd h List.not_mem_nil
  known _ h := absurd h List.not_mem_nil
  complete _ h := absurd h List.not_mem_nil

section

variable {placed : List (Document × String × Json)}

/-- A document more in a group that is there. -/
theorem Grouped.map_add (h : Grouped placed groups) (document : Document) (key : Json)
    (hmem : identity ∈ groups.map TermGroup.identity) :
    Grouped (placed ++ [(document, identity, key)]) (groups.map (add document identity)) := by
  refine ⟨?_, ?_, ?_, ?_⟩
  · rw [map_identity_add]
    exact h.nodup
  · intro group hgroup
    obtain ⟨old, hold, rfl⟩ := List.mem_map.mp hgroup
    rw [identity_add, List.filter_append, List.map_append, ← h.members old hold, add]
    by_cases heq : old.identity = identity
    · simp [heq]
    · simp [heq, Ne.symm heq]
  · intro group hgroup
    obtain ⟨old, hold, rfl⟩ := List.mem_map.mp hgroup
    obtain ⟨first, hfirst⟩ := h.known old hold
    rw [identity_add, key_add]
    exact ⟨first, List.mem_append_left _ hfirst⟩
  · intro entry hentry
    rw [map_identity_add]
    rcases List.mem_append.mp hentry with hentry | hentry
    · exact h.complete entry hentry
    · rw [List.mem_singleton.mp hentry]
      exact hmem

/-- A document in a group of its own. -/
theorem Grouped.concat (h : Grouped placed groups) (document : Document) (key : Json)
    (hmem : identity ∉ groups.map TermGroup.identity) :
    Grouped (placed ++ [(document, identity, key)]) (groups ++ [⟨identity, key, [document]⟩]) := by
  refine ⟨?_, ?_, ?_, ?_⟩
  · rw [List.map_append, List.nodup_append]
    refine ⟨h.nodup, List.nodup_singleton _, ?_⟩
    rintro other hother _ hnew rfl
    rw [List.mem_singleton.mp hnew] at hother
    exact hmem hother
  · intro group hgroup
    rw [List.filter_append, List.map_append]
    rcases List.mem_append.mp hgroup with hold | hnew
    · have hne : identity ≠ group.identity := by
        rintro rfl
        exact hmem (List.mem_map_of_mem hold)
      rw [← h.members group hold]
      simp [hne]
    · -- nothing was put into the new group before
      rw [List.mem_singleton.mp hnew]
      have hnone : (placed.filter fun entry => entry.2.1 = identity) = [] := by
        refine List.filter_eq_nil_iff.mpr fun entry hentry heq => hmem ?_
        rw [← of_decide_eq_true heq]
        exact h.complete entry hentry
      simp [hnone]
  · intro group hgroup
    rcases List.mem_append.mp hgroup with hold | hnew
    · obtain ⟨first, hfirst⟩ := h.known group hold
      exact ⟨first, List.mem_append_left _ hfirst⟩
    · rw [List.mem_singleton.mp hnew]
      exact ⟨document, List.mem_append_right _ (List.mem_singleton_self _)⟩
  · intro entry hentry
    rw [List.map_append]
    rcases List.mem_append.mp hentry with hentry | hentry
    · exact List.mem_append_left _ (h.complete entry hentry)
    · rw [List.mem_singleton.mp hentry]
      exact List.mem_append_right _ (List.mem_singleton_self _)

/-- **One document more in one group keeps the groups what they should be.** -/
theorem put_grouped (h : Grouped placed groups) (document : Document) (identity : String)
    (key : Json) :
    Grouped (placed ++ [(document, identity, key)]) (put document identity key groups) := by
  by_cases hmem : identity ∈ groups.map TermGroup.identity
  · rw [put_of_mem h.nodup hmem]
    exact h.map_add document key hmem
  · rw [put_of_not_mem hmem]
    exact h.concat document key hmem

end

/-- What is put where: each document for each of its identities. -/
def placements (field : String) (documents : List Document) : List (Document × String × Json) :=
  documents.flatMap fun document => (document.terms field).map fun term => (document, term)

theorem ofDocuments_eq_foldl (field : String) (documents : List Document) :
    ofDocuments field documents
      = (placements field documents).foldl
          (fun groups entry => put entry.1 entry.2.1 entry.2.2 groups) [] := by
  rw [placements, List.foldl_flatMap]
  simp only [List.foldl_map]
  rfl

/-- **Documents are grouped by the identities of their values.** -/
theorem ofDocuments_grouped (field : String) (documents : List Document) :
    Grouped (placements field documents) (ofDocuments field documents) := by
  -- what carries the induction is that those before are grouped
  have hrun : ∀ (rest before : List (Document × String × Json)) (groups : List TermGroup),
      Grouped before groups → Grouped (before ++ rest)
        (rest.foldl (fun groups entry => put entry.1 entry.2.1 entry.2.2 groups) groups) := by
    intro rest
    induction rest with
    | nil => intro before groups h; rwa [List.append_nil]
    | cons entry rest ih =>
      intro before groups h
      have hnext := ih _ _ (put_grouped h entry.1 entry.2.1 entry.2.2)
      rwa [List.append_assoc] at hnext
  rw [ofDocuments_eq_foldl]
  exact hrun _ [] [] grouped_nil

/-- A group has the identity and the key of a value. -/
theorem exists_termKey?_of_mem {group : TermGroup} (hgroup : group ∈ ofDocuments field documents) :
    ∃ document ∈ documents, ∃ value ∈ document.values field,
      termKey? value = some (group.identity, group.key) := by
  obtain ⟨_, hplaced⟩ := (ofDocuments_grouped field documents).known group hgroup
  obtain ⟨document, hdocument, hterm⟩ := List.mem_flatMap.mp hplaced
  obtain ⟨term, hterm, heq⟩ := List.mem_map.mp hterm
  obtain ⟨rfl, rfl⟩ := Prod.mk.inj heq
  obtain ⟨value, hvalue, hkey⟩ := List.mem_filterMap.mp (mem_of_mem_distinctTerms hterm)
  exact ⟨document, hdocument, value, hvalue, hkey⟩

/-! ## Members -/

/-- A document is put into the group of an identity once, if it has the identity. -/
theorem filter_terms (document : Document) (field identity : String) :
    (((document.terms field).map fun term => (document, term)).filter
        fun entry => entry.2.1 = identity).map Prod.fst
      = if document.hasTerm field identity then [document] else [] := by
  have hnodup : ((document.terms field).map Prod.fst).Nodup := (nodup_distinctTerms [] _).1
  rw [Document.hasTerm]
  generalize document.terms field = terms at hnodup
  induction terms with
  | nil => rfl
  | cons term terms ih =>
    obtain ⟨hterm, hterms⟩ := List.nodup_cons.mp hnodup
    have hrest := ih hterms
    rw [List.map_cons, List.filter_cons, List.any_cons]
    by_cases heq : term.1 = identity
    · -- the identity does not come again
      have hnone : (terms.any fun other => other.1 = identity) = false := by
        refine List.any_eq_false.mpr fun other hother hsame => hterm ?_
        rw [heq, ← of_decide_eq_true hsame]
        exact List.mem_map_of_mem hother
      rw [hnone, if_neg (by decide)] at hrest
      simp [heq, hrest]
    · rw [if_neg (by simpa using heq), decide_eq_false heq, Bool.false_or]
      exact hrest

theorem filter_placements (field identity : String) (documents : List Document) :
    ((placements field documents).filter fun entry => entry.2.1 = identity).map Prod.fst
      = documents.filter fun document => document.hasTerm field identity := by
  induction documents with
  | nil => rfl
  | cons document documents ih =>
    rw [placements, List.flatMap_cons, List.filter_append, List.map_append, filter_terms,
      ← placements, ih, List.filter_cons]
    cases document.hasTerm field identity <;> rfl

/-- **The members of a group are the documents with its identity.** -/
theorem members_eq_filter {group : TermGroup} (hgroup : group ∈ ofDocuments field documents) :
    group.members = documents.filter fun document => document.hasTerm field group.identity := by
  rw [(ofDocuments_grouped field documents).members group hgroup, filter_placements]

theorem length_placements (field : String) (documents : List Document) :
    (placements field documents).length
      = (documents.map fun document => (document.terms field).length).sum := by
  rw [placements, List.length_flatMap]
  simp only [List.length_map]

/-- **The groups have as many members as the documents have identities.** -/
theorem sum_length_members (field : String) (documents : List Document) :
    ((ofDocuments field documents).map fun group => group.members.length).sum
      = (documents.map fun document => (document.terms field).length).sum := by
  have h := ofDocuments_grouped field documents
  have hmembers : (ofDocuments field documents).map (fun group => group.members.length)
      = ((ofDocuments field documents).map TermGroup.identity).map fun identity =>
        (((placements field documents).filter fun entry => entry.2.1 = identity).map
          fun _ => 1).sum := by
    rw [List.map_map]
    refine List.map_congr_left fun group hgroup => ?_
    rw [h.members group hgroup]
    simp
  rw [hmembers, sum_groups_of_one h.nodup, ← length_placements]
  · simp
  · intro entry hentry
    refine ⟨entry.2.1, h.complete entry hentry, fun other => ?_⟩
    rw [decide_eq_true_iff, eq_comm]

theorem members_ne_nil {group : TermGroup} (hgroup : group ∈ ofDocuments field documents) :
    group.members ≠ [] := by
  have h := ofDocuments_grouped field documents
  obtain ⟨document, hplaced⟩ := h.known group hgroup
  rw [h.members group hgroup]
  refine List.ne_nil_of_mem (List.mem_map_of_mem (List.mem_filter.mpr ⟨hplaced, ?_⟩))
  exact decide_eq_true rfl

/-! ## Buckets -/

/-- The bucket of a group, `inner` being computed from its documents. -/
def bucket (inner : List Document → List (String × Json)) (group : TermGroup) : TermBucket :=
  { identity := group.identity
    key := group.key
    count := group.members.length
    body := Keyed.insertAll (inner group.members)
      [("doc_count", .nat group.members.length), ("key", group.key)] }

/-- The buckets of documents, in the order of the groups. -/
def buckets (inner : List Document → List (String × Json)) (field : String)
    (documents : List Document) : List TermBucket :=
  (ofDocuments field documents).map (bucket inner)

end TermGroup

end LogSearch
