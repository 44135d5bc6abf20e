import LogSearch.Proofs.Keyed
import LogSearch.Store.Search

/-!
# Searches over more or fewer names

The indices that names stand for come each once (`nodup_targets`), and which they are does not
depend on the order of the names (`mem_targets`). So a search over some of the names finds what a
search over all of them finds, apart from what lies in the indices that only the other names stand
for.

Main statement: dropping names loses nothing exactly if no such index holds a document that is
selected (`length_hits_eq_iff`).
-/

namespace LogSearch.Store

variable {store : Store} {names kept : List String} {index : String}

/-! ## Indices of names -/

/-- One name more: its index comes last, unless it is there or does not exist. -/
def addTarget (store : Store) (found : List String) (name : String) : List String :=
  let index := store.resolveName name
  if store.hasIndex index && !found.contains index then found ++ [index] else found

theorem targets_eq_foldl (store : Store) (names : List String) :
    store.targets names = names.foldl store.addTarget [] := rfl

theorem mem_addTarget {found : List String} {name : String} :
    index ∈ store.addTarget found name
      ↔ index ∈ found ∨ store.hasIndex index ∧ store.resolveName name = index := by
  rw [addTarget]
  by_cases hname : store.resolveName name = index
  · subst hname
    by_cases hmem : store.resolveName name ∈ found <;>
      cases hex : store.hasIndex (store.resolveName name) <;> simp [hmem]
  · split <;> simp [hname, Ne.symm hname]

theorem nodup_addTarget {found : List String} (h : found.Nodup) (name : String) :
    (store.addTarget found name).Nodup := by
  rw [addTarget]
  split
  · next hnew =>
    have hnot : store.resolveName name ∉ found := by simpa using (Bool.and_eq_true_iff.mp hnew).2
    refine List.nodup_append.mpr ⟨h, by simp, ?_⟩
    rintro a ha b hb rfl
    rw [List.mem_singleton.mp hb] at ha
    exact hnot ha
  · exact h

theorem mem_foldl_addTarget (names found : List String) :
    index ∈ names.foldl store.addTarget found
      ↔ index ∈ found ∨ store.hasIndex index ∧ ∃ name ∈ names, store.resolveName name = index := by
  induction names generalizing found with
  | nil => simp
  | cons name names ih =>
    rw [List.foldl_cons, ih, mem_addTarget]
    simp only [List.mem_cons, exists_eq_or_imp, or_assoc, and_or_left]

/-- **An index is searched if it exists and a name stands for it.** -/
theorem mem_targets : index ∈ store.targets names
    ↔ store.hasIndex index ∧ ∃ name ∈ names, store.resolveName name = index := by
  rw [targets_eq_foldl, mem_foldl_addTarget]
  simp

/-- **No index is searched twice.** -/
theorem nodup_targets (store : Store) (names : List String) : (store.targets names).Nodup := by
  have hfold : ∀ found : List String, found.Nodup → (names.foldl store.addTarget found).Nodup := by
    induction names with
    | nil => exact fun _ h => h
    | cons name names ih => exact fun _ h => ih _ (nodup_addTarget h name)
  exact hfold [] List.nodup_nil

theorem targets_subset (h : ∀ name ∈ kept, name ∈ names) (hindex : index ∈ store.targets kept) :
    index ∈ store.targets names := by
  obtain ⟨hex, name, hname, hres⟩ := mem_targets.mp hindex
  exact mem_targets.mpr ⟨hex, name, h name hname, hres⟩

/-- Names that stand for no index find nothing. -/
theorem searched_eq_nil (h : ∀ name ∈ names, store.hasIndex (store.resolveName name) = false) :
    store.searched names = [] := by
  have htargets : store.targets names = [] := by
    refine List.eq_nil_iff_forall_not_mem.mpr fun index hindex => ?_
    obtain ⟨hex, name, hname, rfl⟩ := mem_targets.mp hindex
    rw [h name hname] at hex
    cases hex
  rw [searched, htargets, List.flatMap_nil]

/-! ## Hits -/

/-- The documents among those searched that satisfy a condition. -/
def hits (store : Store) (names : List String) (p : Document → Bool) : List Document :=
  (store.searched names).filter p

theorem exists_mem_of_mem_documents {document : Document} (h : document ∈ store.documents index) :
    ∃ documents, (index, documents) ∈ store.indices ∧ document ∈ documents := by
  rw [documents] at h
  cases hget : Keyed.get? index store.indices with
  | none =>
    rw [hget] at h
    cases h
  | some documents =>
    rw [hget] at h
    exact ⟨documents, Keyed.mem_of_get? hget, h⟩

/-- The documents of a store of one index. -/
theorem mem_of_mem_documents_single {documents : List Document} {aliases : List (String × String)}
    {sorter : Sorter} {document : Document} {other : String}
    (h : document ∈ (⟨[(index, documents)], aliases, sorter⟩ : Store).documents other) :
    document ∈ documents := by
  obtain ⟨stored, hstored, hdocument⟩ := exists_mem_of_mem_documents h
  obtain ⟨-, rfl⟩ := Prod.mk.inj (List.mem_singleton.mp hstored)
  exact hdocument

theorem of_mem_hits {p : Document → Bool} {document : Document}
    (h : document ∈ store.hits names p) :
    (∃ index, document ∈ store.documents index) ∧ p document = true := by
  obtain ⟨hsearched, hp⟩ := List.mem_filter.mp h
  obtain ⟨index, _, hdocument⟩ := List.mem_flatMap.mp hsearched
  exact ⟨⟨index, hdocument⟩, hp⟩

/-! ## Dropped names -/

/-- The indices that only dropped names stand for. -/
def dropped (store : Store) (names kept : List String) : List String :=
  (store.targets names).filter fun index => !(store.targets kept).contains index

theorem mem_dropped : index ∈ store.dropped names kept
    ↔ index ∈ store.targets names ∧ index ∉ store.targets kept := by
  simp [dropped]

/-- **Hits over all names are those over the kept ones and those in the dropped indices.** -/
theorem hits_perm_append (store : Store) (h : ∀ name ∈ kept, name ∈ names) (p : Document → Bool) :
    (store.hits names p).Perm
      (store.hits kept p ++ ((store.dropped names kept).flatMap store.documents).filter p) := by
  -- no index comes twice on either side, so equal members are enough
  have hkept : ((store.targets names).filter fun index => (store.targets kept).contains index).Perm
      (store.targets kept) := by
    refine (List.perm_ext_iff_of_nodup ((nodup_targets store names).filter _)
      (nodup_targets store kept)).mpr fun index => ?_
    simp only [List.mem_filter, List.contains_iff_mem]
    exact ⟨fun hindex => hindex.2, fun hindex => ⟨targets_subset h hindex, hindex⟩⟩
  have htargets : (store.targets names).Perm (store.targets kept ++ store.dropped names kept) :=
    (List.filter_append_perm _ _).symm.trans (hkept.append_right _)
  rw [hits, hits, searched, searched, ← List.filter_append, ← List.flatMap_append]
  exact (htargets.flatMap_right _).filter p

/-- If no document of a dropped index is selected, the same documents are found. -/
theorem hits_perm (h : ∀ name ∈ kept, name ∈ names) {p : Document → Bool}
    (hdropped : ∀ index ∈ store.dropped names kept, ∀ document ∈ store.documents index,
      p document = false) :
    (store.hits names p).Perm (store.hits kept p) := by
  have hnone : ((store.dropped names kept).flatMap store.documents).filter p = [] := by
    refine List.filter_eq_nil_iff.mpr fun document hmem => ?_
    obtain ⟨index, hindex, hdocument⟩ := List.mem_flatMap.mp hmem
    simp [hdropped index hindex document hdocument]
  have hperm := hits_perm_append store h p
  rwa [hnone, List.append_nil] at hperm

theorem length_hits_le (h : ∀ name ∈ kept, name ∈ names) (p : Document → Bool) :
    (store.hits kept p).length ≤ (store.hits names p).length := by
  rw [(hits_perm_append store h p).length_eq, List.length_append]
  exact Nat.le_add_right _ _

/-- **Dropping names loses nothing exactly if no dropped index holds a selected document.** -/
theorem length_hits_eq_iff (h : ∀ name ∈ kept, name ∈ names) (p : Document → Bool) :
    (store.hits kept p).length = (store.hits names p).length
      ↔ ∀ index ∈ store.dropped names kept, ∀ document ∈ store.documents index,
        p document = false := by
  constructor
  · intro hlength index hindex document hdocument
    rw [(hits_perm_append store h p).length_eq, List.length_append] at hlength
    have hnone : ((store.dropped names kept).flatMap store.documents).filter p = [] :=
      List.eq_nil_of_length_eq_zero (by omega)
    have := List.filter_eq_nil_iff.mp hnone document
      (List.mem_flatMap.mpr ⟨index, hindex, hdocument⟩)
    simpa using this
  · intro hdropped
    exact (hits_perm h hdropped).length_eq.symm

end LogSearch.Store
