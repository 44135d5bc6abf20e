import Mathlib
import LogSearch.Proofs.Search.Terms
import LogSearch.Proofs.Store.Identities
import LogSearch.Proofs.Store.Order

/-!
# Values of one kind

Buckets have one order if the values of the field are of one kind (`ValueKind`): each is listed
under a name of its own, and their buckets are compared by key as they are themselves. Texts are
such a kind, and so are the integers that floating point holds, as these are not rounded before they
are compared.

Main statements: every bucket is that of a value and counts the documents that have it
(`exists_isFor`), the values that buckets are for are those of the documents (`perm_ofBuckets`), and
every order is transitive among the buckets (`trans_buckets`), so any sorter sorts them.
-/

namespace LogSearch

/-- A kind of values that are told apart by name, and whose buckets are compared as they are. -/
structure ValueKind (α : Type) [LinearOrder α] where
  /-- The value that data stands for. -/
  read : Json → Option α
  /-- The text that a value is listed under. -/
  name : α → String
  name_injective : Function.Injective name
  termKey?_of_read : ∀ {value : Json} {v : α}, read value = some v →
    termKey? value = some (name v, value)
  isFloating_of_read : ∀ {value : Json} {v : α}, read value = some v → value.isFloating = false
  isLE_compareKeys : ∀ {a b : TermBucket} {v w : α}, read a.key = some v → read b.key = some w →
    a.identity = name v → b.identity = name w → ((TermBucket.compareKeys a b).isLE ↔ v ≤ w)

namespace ValueKind

/-! ## Kinds -/

/-- Texts, in the order of their characters. -/
def texts : ValueKind String where
  read := Json.toText?
  name := id
  name_injective := Function.injective_id
  termKey?_of_read {value v} h := by
    cases value <;> cases h
    rfl
  isFloating_of_read {value v} h := by
    cases value <;> cases h
    rfl
  isLE_compareKeys {a b v w} hv hw ha hb := by
    have hnone : a.isNumber = false := by
      unfold TermBucket.isNumber
      cases hkey : a.key <;> rw [hkey] at hv <;> cases hv
      rfl
    rw [TermBucket.isLE_of_text (.inl hnone), ha, hb]
    rfl

/-- The integer that data is, if floating point holds it. -/
def exactInt? : Json → Option Int
  | .num (.int n) => if n.natAbs ≤ 2 ^ 53 then some n else none
  | _ => none

theorem exactInt?_eq_some {value : Json} {n : Int} (h : exactInt? value = some n) :
    value = .int n ∧ n.natAbs ≤ 2 ^ 53 := by
  unfold exactInt? at h
  split at h
  · split at h
    · next hle =>
      obtain rfl := Option.some.inj h
      exact ⟨rfl, hle⟩
    · cases h
  · cases h

section

variable {value : Json} {a b : TermBucket} {v w : Int}

theorem toInt64?_of_exactInt? (h : exactInt? value = some v) :
    value = .int v ∧ (JsonNumber.int v).toInt64? = some v := by
  obtain ⟨rfl, hle⟩ := exactInt?_eq_some h
  exact ⟨rfl, by rw [JsonNumber.toInt64?, if_pos (by omega)]⟩

theorem termKey?_of_exactInt? (h : exactInt? value = some v) :
    termKey? value = some (toString v, value) := by
  obtain ⟨rfl, hsigned⟩ := toInt64?_of_exactInt? h
  rw [Json.int, termKey?, hsigned]
  rfl

theorem isFloating_of_exactInt? (h : exactInt? value = some v) : value.isFloating = false := by
  obtain ⟨rfl, hsigned⟩ := toInt64?_of_exactInt? h
  rw [Json.int, Json.isFloating, hsigned]
  rfl

theorem isLE_of_exactInt? (hv : exactInt? a.key = some v) (hw : exactInt? b.key = some w) :
    (TermBucket.compareKeys a b).isLE ↔ v ≤ w := by
  obtain ⟨hkeyv, hlev⟩ := exactInt?_eq_some hv
  obtain ⟨hkeyw, hlew⟩ := exactInt?_eq_some hw
  have hcompare : TermBucket.compareKeys a b = compare v w := by
    rw [TermBucket.compareKeys, hkeyv, hkeyw]
    show ((Binary64.ofInt v).compare? (Binary64.ofInt w)).getD .eq = compare v w
    rw [Binary64.compare?_ofInt hlev hlew, Option.getD_some]
  rw [hcompare]
  exact Int.isLE_compare

end

/-- Integers of up to 53 bits, in their order. -/
def integers : ValueKind Int where
  read := exactInt?
  name := toString
  name_injective _ _ h := Int.repr_injective h
  termKey?_of_read := termKey?_of_exactInt?
  isFloating_of_read := isFloating_of_exactInt?
  isLE_compareKeys hv hw _ _ := isLE_of_exactInt? hv hw

/-! ## Values of documents -/

variable {α : Type} [LinearOrder α] (kind : ValueKind α)

/-- The values of a field that are of the kind. -/
def valuesIn (document : Document) (field : String) : List α :=
  (document.values field).filterMap kind.read

/-- All values of a field are of the kind. -/
def Covers (field : String) (documents : List Document) : Prop :=
  ∀ document ∈ documents, ∀ value ∈ document.values field, (kind.read value).isSome

/-- The different values of a field. -/
def distinct (field : String) (documents : List Document) : List α :=
  (documents.flatMap fun document => kind.valuesIn document field).dedup

/-- How many documents have a value. -/
def count (field : String) (documents : List Document) (v : α) : Nat :=
  documents.countP fun document => v ∈ kind.valuesIn document field

variable {kind} {field : String} {documents : List Document} {v : α}

theorem mem_distinct :
    v ∈ kind.distinct field documents
      ↔ ∃ document ∈ documents, v ∈ kind.valuesIn document field := by
  rw [distinct, List.mem_dedup, List.mem_flatMap]

/-- A document has a value if it carries its name. -/
theorem carries_name_iff (hcovers : kind.Covers field documents) {document : Document}
    (hdocument : document ∈ documents) :
    document.carries field (kind.name v) = true ↔ v ∈ kind.valuesIn document field := by
  have hidentity : ∀ {value : Json} {w : α}, kind.read value = some w →
      value.identity? = some (kind.name w) := fun hread => by
    rw [Json.identity?, kind.termKey?_of_read hread, Option.map_some]
  rw [Document.carries_iff, valuesIn, List.mem_filterMap]
  constructor
  · rintro ⟨value, hvalue, hname⟩
    obtain ⟨w, hread⟩ := Option.isSome_iff_exists.mp (hcovers document hdocument value hvalue)
    rw [hidentity hread, Option.some.injEq] at hname
    rw [← kind.name_injective hname]
    exact ⟨value, hvalue, hread⟩
  · rintro ⟨value, hvalue, hread⟩
    exact ⟨value, hvalue, hidentity hread⟩

/-! ## Values of buckets -/

variable (kind) in
/-- A bucket is that of a value, and counts the documents that have it. -/
structure IsFor (field : String) (documents : List Document) (bucket : TermBucket) (v : α) :
    Prop where
  read_key : kind.read bucket.key = some v
  identity : bucket.identity = kind.name v
  count : bucket.count = kind.count field documents v

variable (kind) in
/-- The values that buckets are for. -/
def ofBuckets (buckets : List TermBucket) : List α :=
  buckets.filterMap fun bucket => kind.read bucket.key

variable {inner : List Document → List (String × Json)} {buckets : List TermBucket}
  {bucket a b : TermBucket} {u : α}

/-- **Every bucket is that of a value.** -/
theorem exists_isFor (hcovers : kind.Covers field documents)
    (hbucket : bucket ∈ TermGroup.buckets inner field documents) :
    ∃ v, kind.IsFor field documents bucket v := by
  have hcount := TermGroup.count_of_mem_buckets hbucket
  obtain ⟨group, hgroup, rfl⟩ := List.mem_map.mp hbucket
  obtain ⟨document, hdocument, value, hvalue, hterm⟩ := TermGroup.exists_termKey?_of_mem hgroup
  obtain ⟨v, hread⟩ := Option.isSome_iff_exists.mp (hcovers document hdocument value hvalue)
  rw [kind.termKey?_of_read hread] at hterm
  obtain ⟨hidentity, hkey⟩ := Prod.mk.inj (Option.some.inj hterm)
  refine ⟨v, ?_, hidentity.symm, ?_⟩
  · show kind.read group.key = some v
    rw [← hkey, hread]
  · have hname : (TermGroup.bucket inner group).identity = kind.name v := hidentity.symm
    rw [hcount, hname, ValueKind.count, List.countP_eq_length_filter]
    congr 1
    refine List.filter_congr fun document hdocument => ?_
    rw [Bool.eq_iff_iff, carries_name_iff hcovers hdocument, decide_eq_true_iff]

/-- A bucket is listed under the name of its value. -/
theorem IsFor.keyText_view (hv : kind.IsFor field documents bucket v) :
    bucket.view.keyText = kind.name v :=
  keyText_of_termKey? (kind.termKey?_of_read hv.read_key) (kind.isFloating_of_read hv.read_key) _

/-- Buckets are compared by key as their values are. -/
theorem IsFor.isLE_compareKeys (ha : kind.IsFor field documents a v)
    (hb : kind.IsFor field documents b u) : (TermBucket.compareKeys a b).isLE ↔ v ≤ u :=
  kind.isLE_compareKeys ha.read_key hb.read_key ha.identity hb.identity

/-- What the buckets of values say is what the values say. -/
theorem map_ofBuckets {β : Type} {f : α → β} {g : TermBucket → β}
    (hfor : ∀ bucket ∈ buckets, ∃ v, kind.IsFor field documents bucket v)
    (h : ∀ bucket v, kind.IsFor field documents bucket v → f v = g bucket) :
    (kind.ofBuckets buckets).map f = buckets.map g := by
  induction buckets with
  | nil => rfl
  | cons bucket buckets ih =>
    obtain ⟨hbucket, hothers⟩ := List.forall_mem_cons.mp hfor
    obtain ⟨v, hv⟩ := hbucket
    have hfirst : kind.ofBuckets (bucket :: buckets) = v :: kind.ofBuckets buckets :=
      List.filterMap_cons_some hv.read_key
    rw [hfirst, List.map_cons, List.map_cons, ih hothers, h bucket v hv]

/-- There is a value for each bucket. -/
theorem length_ofBuckets (hfor : ∀ bucket ∈ buckets, ∃ v, kind.IsFor field documents bucket v) :
    (kind.ofBuckets buckets).length = buckets.length := by
  rw [ofBuckets, List.filterMap_length_eq_length]
  intro bucket hbucket
  obtain ⟨v, hv⟩ := hfor bucket hbucket
  rw [hv.read_key]
  rfl

/-- A value of buckets is that of one of them. -/
theorem exists_isFor_of_mem (hfor : ∀ bucket ∈ buckets, ∃ v, kind.IsFor field documents bucket v)
    (hv : v ∈ kind.ofBuckets buckets) :
    ∃ bucket ∈ buckets, kind.IsFor field documents bucket v := by
  obtain ⟨bucket, hbucket, hread⟩ := List.mem_filterMap.mp hv
  obtain ⟨w, hw⟩ := hfor bucket hbucket
  obtain rfl := Option.some.inj (hread.symm.trans hw.read_key)
  exact ⟨bucket, hbucket, hw⟩

/-- **The values that buckets are for are those of the documents**, each once. -/
theorem perm_ofBuckets (hcovers : kind.Covers field documents)
    (hperm : buckets.Perm (TermGroup.buckets inner field documents)) :
    (kind.ofBuckets buckets).Perm (kind.distinct field documents) := by
  have hidentities := hperm.map TermBucket.identity
  have hnames : (kind.ofBuckets buckets).map kind.name = buckets.map TermBucket.identity :=
    map_ofBuckets (fun _ hbucket => exists_isFor hcovers (hperm.mem_iff.mp hbucket))
      fun _ _ hv => hv.identity.symm
  have hnodup : (kind.ofBuckets buckets).Nodup := by
    refine List.Nodup.of_map kind.name ?_
    rw [hnames, hidentities.nodup_iff]
    exact TermGroup.nodup_buckets inner field documents
  refine (List.perm_ext_iff_of_nodup hnodup (List.nodup_dedup _)).mpr fun v => ?_
  rw [← List.mem_map_of_injective kind.name_injective, hnames, hidentities.mem_iff,
    TermGroup.mem_identities_buckets]
  exact (exists_congr fun document => and_congr_right fun hdocument =>
    carries_name_iff hcovers hdocument).trans mem_distinct.symm

/-- There are as many buckets as different values. -/
theorem length_buckets (hcovers : kind.Covers field documents)
    (hperm : buckets.Perm (TermGroup.buckets inner field documents)) :
    buckets.length = (kind.distinct field documents).length := by
  rw [← (perm_ofBuckets hcovers hperm).length_eq,
    length_ofBuckets fun _ hbucket => exists_isFor hcovers (hperm.mem_iff.mp hbucket)]

/-- Keys of one kind are compared as their values are. -/
theorem compareKeys_trans (hcovers : kind.Covers field documents)
    (inner : List Document → List (String × Json)) :
    TermBucket.TransOn (TermGroup.buckets inner field documents) TermBucket.compareKeys := by
  intro a ha b hb c hc hab hbc
  obtain ⟨u, hu⟩ := exists_isFor hcovers ha
  obtain ⟨v, hv⟩ := exists_isFor hcovers hb
  obtain ⟨w, hw⟩ := exists_isFor hcovers hc
  rw [hu.isLE_compareKeys hv] at hab
  rw [hv.isLE_compareKeys hw] at hbc
  rw [hu.isLE_compareKeys hw]
  exact hab.trans hbc

/-- **Buckets for values of one kind have an order**, whatever the criteria and what is computed in
them. -/
theorem trans_buckets {sorter : Sorter} {aggregations : List (String × Aggregation)}
    (hcovers : kind.Covers field documents) (hinner : Aggregation.Gives sorter aggregations inner)
    (orders : List TermsOrder) :
    TermBucket.TransOn (TermGroup.buckets inner field documents) (TermBucket.cmp orders) := by
  refine TermBucket.cmp_trans (fun _ hbucket => ?_) (compareKeys_trans hcovers inner) orders
  exact TermGroup.placed_of_mem_buckets? (TermGroup.buckets?_of_gives hinner field documents) hbucket

end ValueKind

end LogSearch
