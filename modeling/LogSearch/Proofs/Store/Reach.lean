import Mathlib
import LogSearch.Proofs.Store.Target

/-!
# What a list of names reaches

A list of names reaches the existing indices that its names stand for. How it does so makes no
difference: in another order, with names repeated, with names of nothing among them, or with aliases
for indices, the same documents are searched (`searched_perm`), only in another order.

A condition is held against one document after the other, and the first fault ends the matter. So
which fault it is depends on the order, but not whether there is one (`search_of_decides`,
`search_of_fault`).

Main statement: lists that reach the same indices fail alike or give the same answer, and what they
count is the sum of what is counted in each index alone (`search_of_reached`).
-/

namespace LogSearch

/-! ## Faults -/

namespace Condition

variable {condition : Condition} {document : Document}

/-- A document comes to no fault of a condition. -/
def Decides (condition : Condition) (document : Document) : Prop :=
  ∃ hit, condition.holds document = .ok hit

/-- Whether a document satisfies a condition, and comes to no fault of it. -/
def accepts (condition : Condition) (document : Document) : Bool :=
  match condition.holds document with
  | .ok hit => hit
  | .error _ => false

theorem holds_of_decides (h : condition.Decides document) :
    condition.holds document = .ok (condition.accepts document) := by
  obtain ⟨hit, hhit⟩ := h
  rw [accepts, hhit]

end Condition

namespace Store

variable {store : Store} {names : List String} {index : String} {body : Json}
  {condition : Condition} {document : Document} {documents : List Document}

/-- Without faults the documents are selected that satisfy the condition. -/
theorem select_of_decides (h : ∀ document ∈ documents, condition.Decides document) :
    select condition documents = .ok (documents.filter condition.accepts) := by
  induction documents with
  | nil => rfl
  | cons document documents ih =>
    rw [select, Condition.holds_of_decides (h document List.mem_cons_self),
      ih fun other hother => h other (List.mem_cons_of_mem _ hother), List.filter_cons]

/-- One fault is enough to fail, wherever it stands. -/
theorem select_of_fault (h : document ∈ documents) (hfault : ¬condition.Decides document) :
    ∃ e, select condition documents = .error e := by
  induction documents with
  | nil => cases h
  | cons first documents ih =>
    rw [select]
    cases hfirst : condition.holds first with
    | error e => exact ⟨e, rfl⟩
    | ok hit =>
      have hne : document ≠ first := by
        rintro rfl
        exact hfault ⟨hit, hfirst⟩
      obtain ⟨e, he⟩ := ih (List.mem_of_ne_of_mem hne h)
      exact ⟨e, by rw [he]⟩

/-- **A search without aggregations and without faults is answered for its hits.** -/
theorem search_of_decides (hplain : aggregationsOf body = none)
    (h : ∀ document ∈ store.searched names, (conditionOf body).Decides document) :
    store.search names body = .ok (respond (store.hits names (conditionOf body).accepts) none) := by
  rw [search, select_of_decides h, hplain]
  rfl

/-- **A search that comes to a fault fails.** -/
theorem search_of_fault (h : document ∈ store.searched names)
    (hfault : ¬(conditionOf body).Decides document) : ∃ e, store.search names body = .error e := by
  obtain ⟨e, he⟩ := select_of_fault h hfault
  exact ⟨e, by rw [search, he]⟩

/-- Of hits only their number shows. -/
theorem respond_congr {hits found : List Document} (h : hits.length = found.length)
    (aggregations : Option Json) : respond hits aggregations = respond found aggregations := by
  rw [respond, respond, h]

/-! ## Reaching -/

/-- A name of a list stands for an index that exists. -/
def Reaches (store : Store) (names : List String) (index : String) : Prop :=
  store.hasIndex index ∧ ∃ name ∈ names, store.resolveName name = index

/-- The names of a list stand for one index and for no other that exists. -/
def ReachesOnly (store : Store) (names : List String) (index : String) : Prop :=
  ∀ other, store.Reaches names other ↔ other = index

section

variable {reached : Finset String}

theorem mem_targets_iff_reaches : index ∈ store.targets names ↔ store.Reaches names index :=
  mem_targets

/-- The documents of the indices that a list reaches are searched, each index once. -/
theorem searched_perm (h : ∀ index, index ∈ reached ↔ store.Reaches names index) :
    (store.searched names).Perm (reached.toList.flatMap store.documents) := by
  have htargets : (store.targets names).Perm reached.toList := by
    refine (List.perm_ext_iff_of_nodup (nodup_targets store names) reached.nodup_toList).mpr ?_
    intro index
    rw [Finset.mem_toList, h, mem_targets_iff_reaches]
  exact htargets.flatMap_right _

theorem mem_searched_iff (h : ∀ index, index ∈ reached ↔ store.Reaches names index) :
    document ∈ store.searched names ↔ ∃ index ∈ reached, document ∈ store.documents index := by
  rw [(searched_perm h).mem_iff, List.mem_flatMap]
  simp only [Finset.mem_toList]

/-- **Hits are counted index by index.** -/
theorem length_hits_eq_sum (h : ∀ index, index ∈ reached ↔ store.Reaches names index)
    (p : Document → Bool) :
    (store.hits names p).length
      = ∑ index ∈ reached, ((store.documents index).filter p).length := by
  rw [hits, ((searched_perm h).filter p).length_eq, List.filter_flatMap, List.length_flatMap,
    Finset.sum_map_toList]

end

theorem ReachesOnly.mem_singleton_iff (h : store.ReachesOnly names index) (other : String) :
    other ∈ ({index} : Finset String) ↔ store.Reaches names other := by
  rw [Finset.mem_singleton]
  exact (h other).symm

/-! ## Searches -/

/-- **Only the indices that are reached matter.** A search without aggregations over two lists of
names that reach the same indices fails for both, if it fails in one of the indices alone, or gives
both the same answer, which counts what is counted in each of the indices alone. An index is
searched alone by any list that reaches no other one. -/
theorem search_of_reached (store : Store) (names others : List String) (reached : Finset String)
    (body : Json) (hnames : ∀ index, index ∈ reached ↔ store.Reaches names index)
    (hothers : ∀ index, index ∈ reached ↔ store.Reaches others index)
    (haggregations : body.get? "aggregations" = none) (haggs : body.get? "aggs" = none) :
    ((∃ e, store.search names body = .error e) ∧ (∃ e, store.search others body = .error e)
      ∧ ∃ index ∈ reached, ∀ only, store.ReachesOnly only index →
        ∃ e, store.search only body = .error e)
    ∨ ∃ response, store.search names body = .ok response ∧ store.search others body = .ok response
      ∧ ∃ alone : String → SearchResponse,
        (∀ index ∈ reached, ∀ only, store.ReachesOnly only index →
          store.search only body = .ok (alone index))
        ∧ response.total.count = ∑ index ∈ reached, (alone index).total.count := by
  have hplain : aggregationsOf body = none := by rw [aggregationsOf, haggregations, haggs]; rfl
  by_cases hdecides : ∀ index ∈ reached, ∀ document ∈ store.documents index,
      (conditionOf body).Decides document
  · -- whatever reaches some of the indices is answered for what they hold
    have hanswer : ∀ (list : List String) (part : Finset String), part ⊆ reached →
        (∀ index, index ∈ part ↔ store.Reaches list index) →
        store.search list body
          = .ok (respond (store.hits list (conditionOf body).accepts) none) := by
      intro list part hpart hlist
      refine search_of_decides hplain fun document hdocument => ?_
      obtain ⟨index, hindex, hmem⟩ := (mem_searched_iff hlist).mp hdocument
      exact hdecides index (hpart hindex) document hmem
    have hcount := length_hits_eq_sum hnames (conditionOf body).accepts
    have hcount' := length_hits_eq_sum hothers (conditionOf body).accepts
    refine .inr ⟨_, hanswer names reached subset_rfl hnames, ?_, fun index =>
      respond ((store.documents index).filter (conditionOf body).accepts) none, ?_, hcount⟩
    · rw [hanswer others reached subset_rfl hothers, respond_congr (hcount'.trans hcount.symm)]
    · intro index hindex only honly
      have hone := length_hits_eq_sum honly.mem_singleton_iff (conditionOf body).accepts
      rw [Finset.sum_singleton] at hone
      rw [hanswer only {index} (Finset.singleton_subset_iff.mpr hindex) honly.mem_singleton_iff,
        respond_congr hone]
  · obtain ⟨index, hindex, document, hdocument, hfault⟩ : ∃ index ∈ reached,
        ∃ document ∈ store.documents index, ¬(conditionOf body).Decides document := by
      simpa only [not_forall, exists_prop] using hdecides
    refine .inl ⟨?_, ?_, index, hindex, fun only honly => ?_⟩
    · exact search_of_fault ((mem_searched_iff hnames).mpr ⟨index, hindex, hdocument⟩) hfault
    · exact search_of_fault ((mem_searched_iff hothers).mpr ⟨index, hindex, hdocument⟩) hfault
    · refine search_of_fault ((mem_searched_iff honly.mem_singleton_iff).mpr ?_) hfault
      exact ⟨index, Finset.mem_singleton_self index, hdocument⟩

/-- Two indices, once under an alias and with names of nothing and of one index twice. -/
theorem search_of_reached_alias :
    let document (level : String) : Document := ⟨.epoch, [("level", .str level)]⟩
    let store : Store :=
      ⟨[("a_0", [document "x", document "y"]), ("b_0", [document "x"])], [("w", "a_0")],
        .insertion 20⟩
    let names := ["b_0", "w", "c_0", "a_0"]
    let body : Json :=
      .obj [("query", .obj [("query_string", .obj [("query", .str "level:x")])])]
    (∀ index, index ∈ ({"a_0", "b_0"} : Finset String) ↔ store.Reaches names index)
      ∧ (∀ index, index ∈ ({"a_0", "b_0"} : Finset String) ↔ store.Reaches ["a_0", "b_0"] index)
      ∧ ∃ response, store.search names body = .ok response
        ∧ store.search ["a_0", "b_0"] body = .ok response ∧ response.total.count = 2 := by
  intro document store names body
  have hnames : ∀ index, index ∈ ({"a_0", "b_0"} : Finset String) ↔ store.Reaches names index := by
    intro index
    have htargets : store.targets names = ["b_0", "a_0"] := by cbv
    rw [← mem_targets_iff_reaches, htargets]
    simp [or_comm]
  have hothers : ∀ index, index ∈ ({"a_0", "b_0"} : Finset String)
      ↔ store.Reaches ["a_0", "b_0"] index := by
    intro index
    have htargets : store.targets ["a_0", "b_0"] = ["a_0", "b_0"] := by cbv
    rw [← mem_targets_iff_reaches, htargets]
    simp
  have hanswer : store.search names body = .ok (respond [document "x", document "x"] none) := by cbv
  refine ⟨hnames, hothers, ?_⟩
  rcases search_of_reached store names ["a_0", "b_0"] {"a_0", "b_0"} body hnames hothers rfl rfl with
    ⟨⟨e, he⟩, -⟩ | ⟨response, hresponse, hresponse', -⟩
  · rw [hanswer] at he
    cases he
  · refine ⟨response, hresponse, hresponse', ?_⟩
    obtain rfl := Except.ok.inj (hanswer.symm.trans hresponse)
    rfl

end Store

end LogSearch
