import Mathlib
import LogSearch.Proofs.Store.Sorting

/-!
# Buckets for identities

A grouping by value has one bucket for each identity among the values of its field
(`mem_identities_buckets`), and the bucket counts the documents that have a value with the identity,
however many they have (`count_of_mem_buckets`). The number of different values, which can be asked
for by itself, is the number of buckets (`length_buckets`).

Main statement: so a request for groups, if its buckets can be sorted, returns as many of them as it
asks for or as there are different values, and their counts and that of what was cut off account for
every document once for each of its identities (`run_terms_counts`).
-/

namespace LogSearch

/-- The identity of a value, if it has one. -/
def Json.identity? (value : Json) : Option String := (termKey? value).map Prod.fst

/-- Whether a document has a value with an identity. -/
def Document.carries (document : Document) (field identity : String) : Bool :=
  (document.values field).any fun value => value.identity? == some identity

/-! ## Identities -/

/-- Of a list every identity is kept that did not come before. -/
theorem mem_identities_distinctTerms {seen : List String} {terms : List (String × Json)}
    {identity : String} :
    identity ∈ (distinctTerms seen terms).map Prod.fst
      ↔ identity ∈ terms.map Prod.fst ∧ identity ∉ seen := by
  induction terms generalizing seen with
  | nil => simp [distinctTerms]
  | cons term terms ih =>
    rw [distinctTerms]
    by_cases hseen : term.1 ∈ seen
    · rw [if_pos (List.contains_iff_mem.mpr hseen), ih, List.map_cons, List.mem_cons]
      constructor
      · rintro ⟨hmem, hnot⟩
        exact ⟨.inr hmem, hnot⟩
      · rintro ⟨rfl | hmem, hnot⟩
        · exact absurd hseen hnot
        · exact ⟨hmem, hnot⟩
    · rw [if_neg (by simpa using hseen), List.map_cons, List.mem_cons, ih, List.map_cons,
        List.mem_cons, List.mem_cons, not_or]
      constructor
      · rintro (rfl | ⟨hmem, -, hnot⟩)
        · exact ⟨.inl rfl, hseen⟩
        · exact ⟨.inr hmem, hnot⟩
      · rintro ⟨rfl | hmem, hnot⟩
        · exact .inl rfl
        · by_cases heq : identity = term.1
          · exact .inl heq
          · exact .inr ⟨hmem, heq, hnot⟩

theorem mem_identities_filterMap {values : List Json} {identity : String} :
    identity ∈ (values.filterMap termKey?).map Prod.fst
      ↔ ∃ value ∈ values, value.identity? = some identity := by
  rw [List.map_filterMap, List.mem_filterMap]
  rfl

theorem Document.carries_iff {document : Document} {field identity : String} :
    document.carries field identity = true
      ↔ ∃ value ∈ document.values field, value.identity? = some identity := by
  simp [carries]

/-- A document is grouped under the identities that its values carry. -/
theorem Document.hasTerm_eq_carries (document : Document) (field identity : String) :
    document.hasTerm field identity = document.carries field identity := by
  have hterm : document.hasTerm field identity = true
      ↔ identity ∈ (document.terms field).map Prod.fst := by
    simp [hasTerm]
  rw [Bool.eq_iff_iff, hterm, terms, mem_identities_distinctTerms, mem_identities_filterMap,
    carries_iff]
  simp

theorem Metric.mem_identities {field identity : String} {documents : List Document} :
    identity ∈ Metric.identities field documents
      ↔ ∃ document ∈ documents, document.carries field identity = true := by
  rw [Metric.identities, mem_identities_distinctTerms, mem_identities_filterMap]
  simp only [Document.carries_iff, List.mem_flatMap, List.not_mem_nil, not_false_eq_true, and_true]
  constructor
  · rintro ⟨value, ⟨document, hdocument, hvalue⟩, hidentity⟩
    exact ⟨document, hdocument, value, hvalue, hidentity⟩
  · rintro ⟨document, hdocument, value, hvalue, hidentity⟩
    exact ⟨value, ⟨document, hdocument, hvalue⟩, hidentity⟩

/-! ## Buckets -/

namespace TermGroup

variable {inner : List Document → List (String × Json)} {field identity : String}
  {documents : List Document} {shown : TermBucket}

theorem mem_identities_ofDocuments :
    identity ∈ (ofDocuments field documents).map TermGroup.identity
      ↔ ∃ document ∈ documents, document.carries field identity = true := by
  constructor
  · intro h
    obtain ⟨group, hgroup, rfl⟩ := List.mem_map.mp h
    obtain ⟨document, hdocument, value, hvalue, hkey⟩ := exists_termKey?_of_mem hgroup
    refine ⟨document, hdocument, Document.carries_iff.mpr ⟨value, hvalue, ?_⟩⟩
    rw [Json.identity?, hkey, Option.map_some]
  · rintro ⟨document, hdocument, hcarries⟩
    rw [← Document.hasTerm_eq_carries] at hcarries
    obtain ⟨term, hterm, heq⟩ := List.any_eq_true.mp hcarries
    rw [← of_decide_eq_true heq]
    exact (ofDocuments_grouped field documents).complete (document, term)
      (List.mem_flatMap.mpr ⟨document, hdocument, List.mem_map_of_mem hterm⟩)

theorem map_identity_buckets (inner : List Document → List (String × Json)) (field : String)
    (documents : List Document) :
    (buckets inner field documents).map TermBucket.identity
      = (ofDocuments field documents).map TermGroup.identity := by
  rw [buckets, List.map_map]
  rfl

/-- **Buckets have different identities.** -/
theorem nodup_buckets (inner : List Document → List (String × Json)) (field : String)
    (documents : List Document) :
    ((buckets inner field documents).map TermBucket.identity).Nodup := by
  rw [map_identity_buckets]
  exact (ofDocuments_grouped field documents).nodup

/-- **There is a bucket for every identity that a document carries**, and for no other. -/
theorem mem_identities_buckets :
    identity ∈ (buckets inner field documents).map TermBucket.identity
      ↔ ∃ document ∈ documents, document.carries field identity = true := by
  rw [map_identity_buckets, mem_identities_ofDocuments]

/-- **A bucket counts the documents that carry its identity.** -/
theorem count_of_mem_buckets (h : shown ∈ buckets inner field documents) :
    shown.count
      = (documents.filter fun document => document.carries field shown.identity).length := by
  obtain ⟨group, hgroup, rfl⟩ := List.mem_map.mp h
  have hmembers := members_eq_filter hgroup
  simp only [Document.hasTerm_eq_carries] at hmembers
  exact congrArg List.length hmembers

/-- **There are as many buckets as different values.** -/
theorem length_buckets (inner : List Document → List (String × Json)) (field : String)
    (documents : List Document) :
    (buckets inner field documents).length = (Metric.identities field documents).length := by
  have hdistinct : (Metric.identities field documents).Nodup := (nodup_distinctTerms [] _).1
  have hperm := (List.perm_ext_iff_of_nodup (nodup_buckets inner field documents)
    hdistinct).mpr fun identity => mem_identities_buckets.trans Metric.mem_identities.symm
  simpa using hperm.length_eq

end TermGroup

/-! ## Requests -/

namespace Aggregation

/-- A request for groups, with its parameters. -/
theorem ofJson_terms {parameters : Json} {field : String} {orders : List TermsOrder} (name : String)
    (hfield : parameters.get? "field" = some (.str field))
    (horder : TermsOrder.ofJson? (parameters.get? "order") = .ok orders) :
    ofJson name (.obj [("terms", parameters)])
      = .terms field (((parameters.get? "size").bind Json.toNat?).getD 10) orders [] := by
  have hkind : ofJson name (.obj [("terms", parameters)])
      = ofKind name "terms" parameters [] := rfl
  rw [hkind, ofKind, hfield]
  simp only [Option.bind_some, Json.toText?, if_true, ofTerms, horder]

/-- The fields of a bucket that was asked for by itself. -/
def bucketFields (bucket : TermBucket) : List (String × Json) :=
  [("doc_count", .nat bucket.count), ("key", bucket.key)]

/-- A list with what is said of it: the first buckets, and how many documents the others count. -/
theorem termsResult_of_fields {buckets : List TermBucket}
    (h : ∀ bucket ∈ buckets, bucket.body = bucketFields bucket) (size : Nat) :
    termsResult size buckets
      = .obj
        [("buckets", .arr ((buckets.take size).map fun bucket => .obj (bucketFields bucket))),
         ("doc_count_error_upper_bound", .nat 0),
         ("sum_other_doc_count", .nat ((buckets.drop size).map TermBucket.count).sum)] := by
  have hshown : (buckets.take size).map (fun bucket => Json.obj bucket.body)
      = (buckets.take size).map fun bucket => .obj (bucketFields bucket) :=
    List.map_congr_left fun bucket hbucket => by rw [h bucket (List.mem_of_mem_take hbucket)]
  have hother : (buckets.drop size).foldl (fun n bucket => n + bucket.count) 0
      = ((buckets.drop size).map TermBucket.count).sum := by
    rw [List.sum_eq_foldl, List.foldl_map]
  rw [termsResult, hshown, hother]

/-- **Groups count every document once for each of its values.** Before they are sorted there is one
bucket for each identity among the values of the field, which counts the documents that have a value
with it and has the key of one of them. Sorting only moves them. As many buckets are returned as are
asked for, or else as there are different values. What they count and what was cut off is all that
there is. There is no answer if there is no end to the sorting; keys that agree are sorted. -/
theorem run_terms_counts (sorter : Sorter) (documents : List Document) (name field : String)
    (parameters : Json) (orders : List TermsOrder)
    (hfield : parameters.get? "field" = some (.str field))
    (horder : TermsOrder.ofJson? (parameters.get? "order") = .ok orders) :
    let size := ((parameters.get? "size").bind Json.toNat?).getD 10
    let carriers identity := documents.filter fun document => document.carries field identity
    let answer := run sorter documents (ofJson name (.obj [("terms", parameters)]))
    let buckets := TermGroup.buckets (fun _ => []) field documents
    ∃ distinct : Nat,
      run sorter documents (ofJson name (.obj [("cardinality", .obj [("field", .str field)])]))
        = .ok (.obj [("value", .nat distinct)])
      ∧ (buckets.map TermBucket.identity).Nodup
      ∧ (∀ identity, identity ∈ buckets.map TermBucket.identity
        ↔ ∃ document ∈ documents, ∃ value ∈ document.values field,
          value.identity? = some identity)
      ∧ (∀ bucket ∈ buckets, bucket.count = (carriers bucket.identity).length
        ∧ ∃ document ∈ documents, ∃ value ∈ document.values field,
          termKey? value = some (bucket.identity, bucket.key))
      ∧ (match sorter.sort? orders buckets with
        | none => answer = .error .unsorted
        | some sorted => ∃ other, sorted.Perm buckets
          ∧ answer = .ok (.obj
            [("buckets", .arr ((sorted.take size).map fun bucket => .obj (bucketFields bucket))),
             ("doc_count_error_upper_bound", .nat 0), ("sum_other_doc_count", .nat other)])
          ∧ (sorted.take size).length = min size distinct
          ∧ ((sorted.take size).map TermBucket.count).sum + other
            = (buckets.map fun bucket => (carriers bucket.identity).length).sum)
      ∧ (TermBucket.Agree buckets → ∃ sorted, sorter.sort? orders buckets = some sorted) := by
  intro size carriers answer buckets
  have hinner : Gives sorter [] fun _ => [] := fun _ _ => rfl
  have hcount : ∀ bucket ∈ buckets, bucket.count = (carriers bucket.identity).length :=
    fun _ hbucket => TermGroup.count_of_mem_buckets hbucket
  have hanswer : answer = (sorter.sorted orders buckets).map (termsResult size) := by
    simp only [answer]
    rw [ofJson_terms name hfield horder, TermGroup.run_terms hinner]
  refine ⟨(Metric.identities field documents).length, rfl,
    TermGroup.nodup_buckets _ field documents, fun identity => ?_,
    fun bucket hbucket => ⟨hcount bucket hbucket, ?_⟩, ?_,
    fun hagree => Sorter.exists_sort?_of_agree hinner hagree orders⟩
  · rw [TermGroup.mem_identities_buckets]
    simp only [Document.carries_iff]
  · obtain ⟨group, hgroup, rfl⟩ := List.mem_map.mp hbucket
    exact TermGroup.exists_termKey?_of_mem hgroup
  · split
    · next hsort => rw [hanswer, Sorter.sorted_of_none hsort]; rfl
    · next sorted hsort =>
      have hperm := sorter.perm hsort
      have hbody : ∀ bucket ∈ sorted, bucket.body = bucketFields bucket := by
        intro bucket hbucket
        obtain ⟨group, _, rfl⟩ := List.mem_map.mp (hperm.mem_iff.mp hbucket)
        rfl
      refine ⟨((sorted.drop size).map TermBucket.count).sum, hperm, ?_, ?_, ?_⟩
      · rw [hanswer, Sorter.sorted_of_some hsort, ← termsResult_of_fields hbody size]
        rfl
      · rw [List.length_take, hperm.length_eq, TermGroup.length_buckets]
      · rw [← List.map_congr_left hcount, ← (hperm.map TermBucket.count).sum_eq]
        conv_rhs => rw [← List.take_append_drop size sorted, List.map_append, List.sum_append]

/-- A number and its text are one value, and a list counts once for each of its values. -/
theorem run_terms_counts_repeated :
    let sorter : Sorter := .insertion 20
    let document (n : Json) : Document := ⟨.epoch, [("n", n)]⟩
    let documents := [document (.arr [.str "a", .str "a", .null, .obj []]),
      document (.arr [.str "b", .int 1]), document (.str "1"), document .null]
    let parameters : Json := .obj
      [("field", .str "n"), ("order", .obj [("_key", .str "ASC")]), ("size", .nat 2)]
    parameters.get? "field" = some (.str "n")
      ∧ TermsOrder.ofJson? (parameters.get? "order") = .ok [⟨.key, true⟩]
      ∧ ∃ (sorted : List TermBucket) (other : Nat),
        run sorter documents (ofJson "t" (.obj [("terms", parameters)]))
          = .ok (.obj
            [("buckets", .arr ((sorted.take 2).map fun bucket => .obj (bucketFields bucket))),
             ("doc_count_error_upper_bound", .nat 0), ("sum_other_doc_count", .nat other)])
        ∧ (sorted.take 2).length = 2
        ∧ ((sorted.take 2).map TermBucket.count).sum + other = 4
        ∧ "1" ∈ sorted.map TermBucket.identity
        ∧ ∀ bucket ∈ sorted, bucket.identity = "1" → bucket.count = 2 := by
  intro sorter document documents parameters
  have horder : TermsOrder.ofJson? (parameters.get? "order") = .ok [⟨.key, true⟩] := rfl
  obtain ⟨distinct, hdistinct, _, hmem, hbuckets, hanswer, hsorts⟩ :=
    run_terms_counts sorter documents "t" "n" parameters _ rfl horder
  obtain ⟨sorted, hsort⟩ := hsorts (by unfold TermBucket.Agree; decide +kernel)
  rw [hsort] at hanswer
  obtain ⟨other, hperm, hanswer, hlength, hsum⟩ := hanswer
  have hthree : run sorter documents (ofJson "t" (.obj [("cardinality", .obj [("field", .str "n")])]))
      = .ok (.obj [("value", .nat 3)]) := rfl
  have hsame : distinct = 3 := by
    have heq := Except.ok.inj (hdistinct.symm.trans hthree)
    simp only [Json.nat, Json.obj.injEq, List.cons.injEq, Prod.mk.injEq, Json.num.injEq,
      JsonNumber.int.injEq] at heq
    omega
  refine ⟨rfl, horder, sorted, other, hanswer, ?_, hsum.trans ?_, ?_, ?_⟩
  · rw [hsame] at hlength
    exact hlength
  · decide +kernel
  · have hthird : document (.str "1") ∈ documents := by simp [documents]
    exact (hperm.map TermBucket.identity).mem_iff.mpr
      ((hmem "1").mpr ⟨_, hthird, .str "1", List.mem_singleton_self _, rfl⟩)
  · intro bucket hbucket hone
    rw [(hbuckets bucket (hperm.mem_iff.mp hbucket)).1, hone]
    decide +kernel

/-- Of five numbers and sixteen texts that lie between them there are twenty-one values, but a
grouping by them has no answer, even if no bucket is asked for. -/
theorem run_terms_counts_fails :
    let sorter : Sorter := .insertion 20
    let parameters : Json := .obj
      [("field", .str "n"), ("order", .arr [.obj [("_count", .str "desc")],
        .obj [("_key", .str "asc")]]), ("size", .nat 0)]
    TermsOrder.ofJson? (parameters.get? "order") = .ok [⟨.count, false⟩, ⟨.key, true⟩]
      ∧ run sorter crossed (ofJson "t" (.obj [("cardinality", .obj [("field", .str "n")])]))
        = .ok (.obj [("value", .nat 21)])
      ∧ run sorter crossed (ofJson "t" (.obj [("terms", parameters)])) = .error .unsorted := by
  intro sorter parameters
  have horder : TermsOrder.ofJson? (parameters.get? "order")
      = .ok [⟨.count, false⟩, ⟨.key, true⟩] := rfl
  have hinner : Gives sorter [] fun _ => [] := fun _ _ => rfl
  have hall : (Metric.identities "n" crossed).length = 21 := by decide +kernel
  refine ⟨horder, ?_, ?_⟩
  · rw [← hall]
    rfl
  · rw [ofJson_terms "t" rfl horder, TermGroup.run_terms hinner,
      Sorter.sorted_of_none sort?_crossed]
    rfl

end Aggregation

end LogSearch
