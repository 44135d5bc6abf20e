import Mathlib
import LogSearch.Proofs.Number.Order
import LogSearch.Proofs.Store.Terms

/-!
# The buckets of a grouping

Every group of documents gives one bucket, with the results of the aggregations inside
(`TermGroup.bucket?`), if these have no faults. The grouping sorts the buckets and says what the
first of them hold (`run_eq_buckets?`, `run_terms`), unless there is no end to the sorting.

Buckets are compared by the numbers in them. A number that is computed may be none, but then it has
no written form: what is directly in the result of an aggregation has a place among the numbers
(`Aggregation.holdsPlaced_of_run`), and so has the key of a bucket (`placed_of_mem_buckets?`).
-/

namespace LogSearch

/-! ## Data that is compared -/

namespace Json

/-- If the data is a number, it has a place among the numbers. -/
def Placed (json : Json) : Prop := json.toBinary64? ≠ some .nan

/-- If there are numbers directly inside, they have a place. -/
def HoldsPlaced (json : Json) : Prop := ∀ name inner, json.get? name = some inner → inner.Placed

theorem placed_of_none {json : Json} (h : json.toBinary64? = none) : json.Placed := by
  rw [Placed, h]
  exact nofun

theorem placed_int (n : Int) : (Json.int n).Placed :=
  fun h => Binary64.ofInt_ne_nan n (Option.some.inj h)

theorem placed_nat (n : Nat) : (Json.nat n).Placed := placed_int n

theorem placed_float (x : Binary64) : (Json.float x).Placed := by
  cases x <;> simp [Placed, Json.float, Binary64.isFinite, toBinary64?, JsonNumber.toBinary64]

theorem placed_numberOrNull (x : Option Binary64) : (Moments.numberOrNull x).Placed := by
  cases x with
  | none => exact placed_of_none rfl
  | some x => exact placed_float x

theorem placed_arr (items : List Json) : (Json.arr items).Placed := placed_of_none rfl

theorem placed_obj (fields : List (String × Json)) : (Json.obj fields).Placed := placed_of_none rfl

theorem holdsPlaced_obj {fields : List (String × Json)} (h : ∀ field ∈ fields, field.2.Placed) :
    (Json.obj fields).HoldsPlaced := fun _ _ hget => h _ (Keyed.mem_of_get? hget)

end Json

theorem placed_of_termKey? {value key : Json} {identity : String}
    (h : termKey? value = some (identity, key)) : key.Placed ∧ key.HoldsPlaced := by
  have hplain : ∀ json : Json, json.fields? = none → json.HoldsPlaced := by
    intro json hjson name inner hget
    cases json <;> cases hjson <;> cases hget
  cases value with
  | null => cases h
  | bool flag =>
    obtain ⟨-, rfl⟩ := Prod.mk.inj (Option.some.inj h)
    exact ⟨Json.placed_of_none rfl, hplain _ rfl⟩
  | str text =>
    obtain ⟨-, rfl⟩ := Prod.mk.inj (Option.some.inj h)
    exact ⟨Json.placed_of_none rfl, hplain _ rfl⟩
  | num n =>
    rw [termKey?] at h
    split at h
    · obtain ⟨-, rfl⟩ := Prod.mk.inj (Option.some.inj h)
      exact ⟨Json.placed_int _, hplain _ rfl⟩
    · obtain ⟨-, rfl⟩ := Prod.mk.inj (Option.some.inj h)
      refine ⟨Json.placed_float _, hplain _ ?_⟩
      rw [Json.float]
      split <;> rfl
  | arr items => cases h
  | obj fields => cases h

/-! ## Results of aggregations -/

namespace Metric

theorem exists_run_eq_obj (metric : Metric) (field : String) (documents : List Document) :
    ∃ fields, metric.run field documents = .obj fields ∧ ∀ entry ∈ fields, entry.2.Placed := by
  cases metric with
  | stats =>
    refine ⟨_, rfl, ?_⟩
    simp [Json.placed_numberOrNull, Json.placed_nat, Json.placed_float]
  | extendedStats =>
    refine ⟨_, rfl, ?_⟩
    simp [Json.placed_numberOrNull, Json.placed_nat, Json.placed_float, Json.placed_obj,
      Moments.deviationBounds]
  | sum => exact ⟨_, rfl, by simp [Json.placed_float]⟩
  | mean => exact ⟨_, rfl, by simp [Json.placed_numberOrNull]⟩
  | least => exact ⟨_, rfl, by simp [Json.placed_numberOrNull]⟩
  | greatest => exact ⟨_, rfl, by simp [Json.placed_numberOrNull]⟩
  | valueCount => exact ⟨_, rfl, by simp [Json.placed_nat]⟩
  | cardinality => exact ⟨_, rfl, by simp [Json.placed_nat]⟩

end Metric

/-- What comes after a value came after one. -/
theorem exists_of_bind_eq_ok {ε α β : Type} {x : Except ε α} {f : α → Except ε β} {b : β}
    (h : (x >>= f) = .ok b) : ∃ a, x = .ok a ∧ f a = .ok b := by
  cases x with
  | error e => cases h
  | ok a => exact ⟨a, rfl, h⟩

/-- What went wrong after something did so there or before. -/
theorem of_bind_eq_error {ε α β : Type} {x : Except ε α} {f : α → Except ε β} {e : ε}
    (h : (x >>= f) = .error e) : x = .error e ∨ ∃ a, x = .ok a ∧ f a = .error e := by
  cases x with
  | error e' => exact .inl (congrArg Except.error (Except.error.inj h))
  | ok a => exact .inr ⟨a, rfl, h⟩

theorem exists_of_mapM_eq_error {ε α β : Type} {f : α → Except ε β} {items : List α} {e : ε}
    (h : items.mapM f = .error e) : ∃ item ∈ items, f item = .error e := by
  induction items with
  | nil => cases h
  | cons item rest ih =>
    rw [List.mapM_cons] at h
    rcases of_bind_eq_error h with hitem | ⟨b, -, h⟩
    · exact ⟨item, List.mem_cons_self, hitem⟩
    · rcases of_bind_eq_error h with hrest | ⟨bs, -, h⟩
      · obtain ⟨found, hfound, herror⟩ := ih hrest
        exact ⟨found, List.mem_cons_of_mem _ hfound, herror⟩
      · cases h

namespace Aggregation

variable {sorter : Sorter} {documents : List Document} {aggregation : Aggregation} {result : Json}

/-- What holds of the fields of a bucket and of every result holds after the results are put in. -/
theorem forall_mem_runInto {P : Json → Prop}
    (hrun : ∀ aggregation result, run sorter documents aggregation = .ok result → P result)
    {inner : List (String × Aggregation)} {fields body : List (String × Json)}
    (hfields : ∀ field ∈ fields, P field.2) (h : runInto sorter fields documents inner = .ok body) :
    ∀ field ∈ body, P field.2 := by
  induction inner generalizing fields with
  | nil =>
    rw [runInto] at h
    rwa [← Except.ok.inj h]
  | cons named inner ih =>
    obtain ⟨name, aggregation⟩ := named
    rw [runInto] at h
    cases hfirst : run sorter documents aggregation with
    | error e => rw [hfirst] at h; cases h
    | ok result =>
      rw [hfirst] at h
      refine ih (fun field hfield => ?_) h
      rcases Keyed.mem_insert hfield with rfl | hold
      · exact hrun aggregation result hfirst
      · exact hfields field hold

/-- **What a result can be.** -/
theorem run_cases (h : run sorter documents aggregation = .ok result) :
    (∃ size buckets, result = termsResult size buckets)
      ∨ (∃ buckets, result = .obj [("buckets", .arr buckets)])
      ∨ (∃ members inner fields, runInto sorter [("doc_count", .nat members.length)] members inner
          = .ok fields ∧ result = .obj fields)
      ∨ ∃ metric field, result = Metric.run metric field documents := by
  cases aggregation with
  | terms field size orders inner =>
    rw [run] at h
    obtain ⟨buckets, -, h⟩ := exists_of_bind_eq_ok h
    obtain ⟨sorted, -, h⟩ := exists_of_bind_eq_ok h
    exact .inl ⟨_, _, (Except.ok.inj h).symm⟩
  | histogram field interval minCount inner =>
    rw [run] at h
    obtain ⟨groups, -, h⟩ := exists_of_bind_eq_ok h
    obtain ⟨buckets, -, h⟩ := exists_of_bind_eq_ok h
    exact .inr (.inl ⟨_, (Except.ok.inj h).symm⟩)
  | missing field inner =>
    rw [run] at h
    obtain ⟨fields, hfields, h⟩ := exists_of_bind_eq_ok h
    exact .inr (.inr (.inl ⟨_, _, _, hfields, (Except.ok.inj h).symm⟩))
  | metric metric field =>
    rw [run] at h
    exact .inr (.inr (.inr ⟨_, _, (Except.ok.inj h).symm⟩))
  | fault detail =>
    rw [run] at h
    cases h

theorem placed_of_run (h : run sorter documents aggregation = .ok result) : result.Placed := by
  obtain ⟨size, buckets, rfl⟩ | ⟨buckets, rfl⟩ | ⟨members, inner, fields, -, rfl⟩
    | ⟨metric, field, rfl⟩ := run_cases h
  · exact Json.placed_obj _
  · exact Json.placed_obj _
  · exact Json.placed_obj _
  · obtain ⟨fields, hfields, -⟩ := metric.exists_run_eq_obj field documents
    rw [hfields]
    exact Json.placed_obj _

/-- **The numbers directly in a result have a place.** -/
theorem holdsPlaced_of_run (h : run sorter documents aggregation = .ok result) :
    result.HoldsPlaced := by
  obtain ⟨size, buckets, rfl⟩ | ⟨buckets, rfl⟩ | ⟨members, inner, fields, hfields, rfl⟩
    | ⟨metric, field, rfl⟩ := run_cases h
  · refine Json.holdsPlaced_obj ?_
    simp [Json.placed_nat, Json.placed_arr]
  · refine Json.holdsPlaced_obj ?_
    simp [Json.placed_arr]
  · refine Json.holdsPlaced_obj ?_
    exact forall_mem_runInto (fun _ _ => placed_of_run) (by simp [Json.placed_nat]) hfields
  · obtain ⟨fields, hfields, hplaced⟩ := metric.exists_run_eq_obj field documents
    rw [hfields]
    exact Json.holdsPlaced_obj hplaced

end Aggregation

/-! ## Buckets of a grouping -/

namespace TermGroup

/-- The bucket of a group, with the results of aggregations, if there are no faults. -/
def bucket? (sorter : Sorter) (aggregations : List (String × Aggregation)) (group : TermGroup) :
    Except BackendError TermBucket := do
  let count := group.members.length
  let body ← Aggregation.runInto sorter [("doc_count", .nat count), ("key", group.key)]
    group.members aggregations
  return { identity := group.identity, key := group.key, count, body }

/-- The buckets of documents, in the order of the groups. -/
def buckets? (sorter : Sorter) (aggregations : List (String × Aggregation)) (field : String)
    (documents : List Document) : Except BackendError (List TermBucket) :=
  (ofDocuments field documents).mapM (bucket? sorter aggregations)

/-- **A grouping sorts its buckets.** -/
theorem run_eq_buckets? (sorter : Sorter) (documents : List Document) (field : String) (size : Nat)
    (orders : List TermsOrder) (aggregations : List (String × Aggregation)) :
    Aggregation.run sorter documents (.terms field size orders aggregations)
      = ((buckets? sorter aggregations field documents).bind (sorter.sorted orders)).map
          (Aggregation.termsResult size) := by
  rw [Aggregation.run]
  show ((buckets? sorter aggregations field documents).bind fun buckets =>
    (sorter.sorted orders buckets).bind fun sorted =>
      .ok (Aggregation.termsResult size sorted)) = _
  cases buckets? sorter aggregations field documents <;> rfl

/-- Without faults inside there are buckets. -/
theorem buckets?_of_gives {sorter : Sorter} {aggregations : List (String × Aggregation)}
    {inner : List Document → List (String × Json)} (h : Aggregation.Gives sorter aggregations inner)
    (field : String) (documents : List Document) :
    buckets? sorter aggregations field documents = .ok (buckets inner field documents) :=
  mapM_eq_ok fun group _ => by
    simp only [bucket?, h _ _]
    rfl

/-- **The result of a grouping lists the buckets sorted**, with what the aggregations inside give
for each, if those have no faults and the buckets can be sorted. -/
theorem run_terms {sorter : Sorter} {aggregations : List (String × Aggregation)}
    {inner : List Document → List (String × Json)} (h : Aggregation.Gives sorter aggregations inner)
    (documents : List Document) (field : String) (size : Nat) (orders : List TermsOrder) :
    Aggregation.run sorter documents (.terms field size orders aggregations)
      = (sorter.sorted orders (buckets inner field documents)).map
          (Aggregation.termsResult size) := by
  rw [run_eq_buckets?, buckets?_of_gives h]
  rfl

end TermGroup

namespace TermBucket

/-- The numbers that a bucket is compared by have a place. -/
structure Placed (bucket : TermBucket) : Prop where
  key : bucket.key.Placed
  metric : ∀ aggregation name, bucket.metric? aggregation name ≠ some .nan

end TermBucket

namespace TermGroup

variable {sorter : Sorter} {aggregations : List (String × Aggregation)} {field : String}
  {documents : List Document} {group : TermGroup} {buckets : List TermBucket} {shown : TermBucket}

theorem placed_of_bucket? (hgroup : group ∈ ofDocuments field documents)
    (h : bucket? sorter aggregations group = .ok shown) : shown.Placed := by
  obtain ⟨body, hbody, hshown⟩ := exists_of_bind_eq_ok h
  obtain rfl := Except.ok.inj hshown
  obtain ⟨_, _, _, _, hterm⟩ := exists_termKey?_of_mem hgroup
  obtain ⟨hkey, hinside⟩ := placed_of_termKey? hterm
  have hholds : ∀ entry ∈ body, entry.2.HoldsPlaced := by
    refine Aggregation.forall_mem_runInto (fun _ _ => Aggregation.holdsPlaced_of_run) ?_ hbody
    intro entry hentry
    rcases List.mem_cons.mp hentry with rfl | hentry
    · exact fun _ _ hget => by cases hget
    · rw [List.mem_singleton.mp hentry]
      exact hinside
  refine ⟨hkey, fun aggregation name hnan => ?_⟩
  obtain ⟨inner, hinner, hnumber⟩ := Option.bind_eq_some_iff.mp hnan
  obtain ⟨result, hresult, hget⟩ := Option.bind_eq_some_iff.mp hinner
  exact hholds _ (Keyed.mem_of_get? hresult) name inner hget hnumber

/-- Results that are there come one from each item. -/
theorem forall₂_of_mapM_eq_ok {α β ε : Type} {f : α → Except ε β} {items : List α}
    {results : List β} (h : items.mapM f = .ok results) :
    List.Forall₂ (fun a b => f a = .ok b) items results := by
  induction items generalizing results with
  | nil =>
    obtain rfl := Except.ok.inj h
    exact .nil
  | cons a items ih =>
    rw [List.mapM_cons] at h
    obtain ⟨b, hb, h⟩ := exists_of_bind_eq_ok h
    obtain ⟨others, hothers, h⟩ := exists_of_bind_eq_ok h
    obtain rfl := Except.ok.inj h
    exact .cons hb (ih hothers)

theorem identity_of_bucket? (h : bucket? sorter aggregations group = .ok shown) :
    shown.identity = group.identity := by
  obtain ⟨body, -, hshown⟩ := exists_of_bind_eq_ok h
  rw [← Except.ok.inj hshown]

theorem placed_of_mem_buckets? (h : buckets? sorter aggregations field documents = .ok buckets)
    (hshown : shown ∈ buckets) : shown.Placed := by
  have hall : ∀ {groups : List TermGroup} {buckets : List TermBucket},
      List.Forall₂ (fun group shown => bucket? sorter aggregations group = .ok shown) groups buckets →
      (∀ group ∈ groups, group ∈ ofDocuments field documents) →
      ∀ shown ∈ buckets, shown.Placed := by
    intro groups buckets hpairs
    induction hpairs with
    | nil => exact fun _ _ h => absurd h List.not_mem_nil
    | cons hfirst _ ih =>
      intro hgroups
      obtain ⟨hgroup, hothers⟩ := List.forall_mem_cons.mp hgroups
      exact List.forall_mem_cons.mpr ⟨placed_of_bucket? hgroup hfirst, ih hothers⟩
  exact hall (forall₂_of_mapM_eq_ok h) (fun _ hgroup => hgroup) shown hshown

/-- Buckets have different identities. -/
theorem nodup_buckets? (h : buckets? sorter aggregations field documents = .ok buckets) :
    (buckets.map TermBucket.identity).Nodup := by
  have hsame : (ofDocuments field documents).map TermGroup.identity
      = buckets.map TermBucket.identity := by
    rw [← List.forall₂_eq_eq_eq, List.forall₂_map_left_iff, List.forall₂_map_right_iff]
    exact (forall₂_of_mapM_eq_ok h).imp fun _ _ hbucket => (identity_of_bucket? hbucket).symm
  rw [← hsame]
  exact (ofDocuments_grouped field documents).nodup

end TermGroup

end LogSearch
