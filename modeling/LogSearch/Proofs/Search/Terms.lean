import Mathlib
import LogSearch.Proofs.Search.Run
import LogSearch.Proofs.Store.Identities

/-!
# Searches for the most frequent values

A search for the most frequent values makes of its hits a `TermsResult`, if the store can sort their
buckets (`onHits_terms`). In whatever order these come, hits with one value at most are then missing,
cut off with their bucket, or in a bucket that is listed (`total_eq`).

Buckets have different identities, but they are listed under the texts of their keys, and of buckets
with one text only the last is left. So the result accounts for every hit exactly if the texts
differ (`terms_accounts_iff`). They do unless a floating-point number is among the values: its key
is written with a decimal, and its identity without, so the number 1.0 is another value than the
text `1.0` and listed under the same name.
-/

namespace LogSearch

/-! ## Results -/

/-- **A list of buckets is read back**, if each bucket is. -/
theorem TermsView.ofJson?_termsResult {buckets : List TermBucket} {view : TermBucket → Bucket}
    (h : ∀ bucket ∈ buckets, Bucket.ofJson? (.obj bucket.body) = some (view bucket)) (size : Nat) :
    ofJson? (Aggregation.termsResult size buckets)
      = some
        { otherCount := ((buckets.drop size).map TermBucket.count).sum
          buckets := (buckets.take size).map view } := by
  have hshown : ((buckets.take size).map fun bucket => Json.obj bucket.body).mapM Bucket.ofJson?
      = some ((buckets.take size).map view) := by
    rw [List.mapM_map]
    exact mapM_eq_pure fun bucket hbucket => h bucket (List.mem_of_mem_take hbucket)
  have hother : (buckets.drop size).foldl (fun n bucket => n + bucket.count) 0
      = ((buckets.drop size).map TermBucket.count).sum := by
    rw [List.sum_eq_foldl, List.foldl_map]
  have hslots : (Aggregation.termsResult size buckets).slots ["sum_other_doc_count", "buckets"]
      = some [.given (.nat ((buckets.drop size).foldl (fun n bucket => n + bucket.count) 0)),
        .given (.arr ((buckets.take size).map fun bucket => Json.obj bucket.body))] := rfl
  rw [ofJson?, hslots]
  simp only [Option.bind_eq_bind, Option.bind_some, Slot.orElse, bucketsOfJson?, Json.toList?,
    Json.toNat?_nat, hshown, hother]
  rfl

namespace TermBucket

/-- The bucket that is read back. -/
def view (bucket : TermBucket) : Bucket := ⟨bucket.key, bucket.count, []⟩

end TermBucket

namespace Operation

/-- How many hits have no value. -/
def missingCount (field : String) (hits : List Document) : Nat :=
  (hits.filter fun document => (document.values field).isEmpty).length

/-- The most frequent values first, or last, and equal ones by their keys. -/
def byCount (direction : Direction) : List TermsOrder :=
  [⟨.count, direction = .asc⟩, ⟨.key, true⟩]

theorem ofFields_terms (field : String) (size : Nat) (direction : Direction) :
    Aggregation.ofFields
        [("missing", Query.fieldAggregation "missing" field),
          ("terms", Query.termsAggregation field size direction)]
      = [("missing", .missing field []), ("terms", .terms field size (byCount direction) [])] := by
  have hsize : (((Json.obj [("size", Json.nat size)]).get? "size").bind Json.toNat?).getD 10
      = size := by
    show ((Json.nat size).toNat?).getD 10 = size
    rw [Json.toNat?_nat, Option.getD_some]
  have hterms : Aggregation.ofJson "terms" (Query.termsAggregation field size direction)
      = .terms field
        ((((Json.obj [("size", Json.nat size)]).get? "size").bind Json.toNat?).getD 10)
        (byCount direction) [] := by
    cases direction <;> rfl
  rw [Aggregation.ofFields, Aggregation.ofFields, Aggregation.ofFields, hterms, hsize]
  rfl

/-- The buckets of hits, with nothing computed in them. -/
def termBuckets (field : String) (hits : List Document) : List TermBucket :=
  TermGroup.buckets (fun _ => []) field hits

/-- What is said of hits and their buckets, once these are sorted. -/
def termsOf (field : String) (size : Nat) (hits : List Document) (sorted : List TermBucket) :
    TermsResult :=
  { total := hits.length
    missing := missingCount field hits
    other := ((sorted.drop size).map TermBucket.count).sum
    terms := termCounts ((sorted.take size).map TermBucket.view) }

section

variable {sorter : Sorter} {field : String} {hits : List Document} {sorted : List TermBucket}
  {bucket : TermBucket}

/-- Nothing is computed in the buckets. -/
theorem gives_nil (sorter : Sorter) : Aggregation.Gives sorter [] fun _ => [] := fun _ _ => rfl

theorem ofJson?_termBucket (h : bucket ∈ termBuckets field hits) :
    Bucket.ofJson? (.obj bucket.body) = some bucket.view := by
  obtain ⟨group, _, rfl⟩ := List.mem_map.mp h
  exact Bucket.ofJson?_obj rfl rfl

/-- Keys that agree are sorted, whatever sorts them. -/
theorem exists_sort?_of_agree (sorter : Sorter) (direction : Direction)
    (h : TermBucket.Agree (termBuckets field hits)) :
    ∃ sorted, sorter.sort? (byCount direction) (termBuckets field hits) = some sorted :=
  Sorter.exists_sort?_of_agree (gives_nil sorter) h _

end

/-- **What a search for the most frequent values makes of hits**, if their buckets can be sorted. -/
theorem onHits_terms (sorter : Sorter) (field : String) (size : Nat) (direction : Direction)
    (w : Window) (hits : List Document) :
    (Operation.terms field size direction).onHits sorter w hits
      = (sorter.sorted (byCount direction) (termBuckets field hits)).map
          (termsOf field size hits) := by
  have hrun := TermGroup.run_terms (gives_nil sorter) hits field size (byCount direction)
  let results (sorted : List TermBucket) : List (String × Json) :=
    [("missing", .obj [("doc_count", .nat (missingCount field hits))]),
     ("terms", Aggregation.termsResult size sorted)]
  have hanswer : Store.answer sorter hits (Operation.terms field size direction).aggregations
      = (sorter.sorted (byCount direction) (termBuckets field hits)).map fun sorted =>
          Store.respond hits (some (.obj (results sorted))) := by
    simp only [Operation.terms, Store.answer, ofFields_terms, Aggregation.runInto, hrun]
    rw [termBuckets]
    cases sorter.sorted (byCount direction) (TermGroup.buckets (fun _ => []) field hits) <;> rfl
  rw [onHits, hanswer]
  cases hsort : sorter.sort? (byCount direction) (termBuckets field hits) with
  | none =>
    rw [Sorter.sorted_of_none hsort]
    rfl
  | some sorted =>
    rw [Sorter.sorted_of_some hsort]
    have hbuckets : ∀ bucket ∈ sorted, Bucket.ofJson? (.obj bucket.body) = some bucket.view :=
      fun _ hbucket => ofJson?_termBucket ((sorter.perm hsort).mem_iff.mp hbucket)
    have hterms : aggregationResult TermsView.ofJson? (some (.obj (results sorted))) "terms"
        = .ok _ := aggregationResult_eq_ok rfl (TermsView.ofJson?_termsResult hbuckets size)
    have hmissing : aggregationResult MissingView.ofJson? (some (.obj (results sorted))) "missing"
        = .ok ⟨missingCount field hits⟩ := by
      refine aggregationResult_eq_ok rfl ?_
      show ((Json.nat _).toNat?.bind fun count => some (⟨count⟩ : MissingView)) = _
      rw [Json.toNat?_nat, Option.bind_some]
    simp only [Except.map, Except.bind, Operation.terms, Store.respond, hterms, hmissing, ok_bind]
    rfl

/-- Without indices the result is that of no hits. -/
theorem read_terms_none (sorter : Sorter) (field : String) (size : Nat) (direction : Direction)
    (w : Window) :
    (Operation.terms field size direction).read w none
      = (Operation.terms field size direction).onHits sorter w [] := by
  have hnone : sorter.sorted (byCount direction) (termBuckets field []) = .ok [] :=
    Sorter.sorted_of_some (sorter.sort?_nil _)
  rw [onHits_terms, hnone, Except.map, termsOf, List.take_nil, List.drop_nil]
  rfl

end Operation

/-! ## Single values -/

/-- Whether a field holds nothing, or a single text, number or truth value. -/
def Document.isSingle (document : Document) (field : String) : Bool :=
  match find? document.source field with
  | some (.arr _) | some (.obj _) => false
  | _ => true

/-- Whether a value is a number but no signed integer of 64 bits. -/
def Json.isFloating : Json → Bool
  | .num n => n.toInt64?.isNone
  | _ => false

/-- A document without values is missing, and any other has one identity. -/
theorem Document.length_terms_of_isSingle {document : Document} {field : String}
    (h : document.isSingle field = true) :
    (document.terms field).length + (if (document.values field).isEmpty then 1 else 0) = 1 := by
  unfold isSingle at h
  rw [terms, values]
  cases hfind : find? document.source field with
  | none => rfl
  | some value =>
    rw [hfind] at h
    cases value with
    | null => rfl
    | bool flag => rfl
    | str text => rfl
    | num n =>
      obtain ⟨term, hterm⟩ : ∃ term, termKey? (.num n) = some term := by
        rw [termKey?]
        split <;> exact ⟨_, rfl⟩
      have hvalues : ([Json.num n].filterMap termKey?) = [term] := by
        rw [List.filterMap_cons_some hterm, List.filterMap_nil]
      show (distinctTerms [] ([Json.num n].filterMap termKey?)).length + 0 = 1
      rw [hvalues]
      rfl
    | arr items => cases h
    | obj fields => cases h

theorem Operation.missingCount_cons (field : String) (document : Document) (hits : List Document) :
    missingCount field (document :: hits)
      = (if (document.values field).isEmpty then 1 else 0) + missingCount field hits := by
  rw [missingCount, missingCount, List.filter_cons]
  split
  · rw [List.length_cons, Nat.add_comm]
  · rw [Nat.zero_add]

theorem missingCount_add_sum {field : String} {hits : List Document}
    (h : ∀ document ∈ hits, document.isSingle field = true) :
    Operation.missingCount field hits
        + (hits.map fun document => (document.terms field).length).sum
      = hits.length := by
  induction hits with
  | nil => rfl
  | cons document hits ih =>
    have hfirst := Document.length_terms_of_isSingle (h document List.mem_cons_self)
    have hrest := ih fun other hother => h other (List.mem_cons_of_mem _ hother)
    rw [List.map_cons, List.sum_cons, List.length_cons, Operation.missingCount_cons]
    omega

/-! ## Texts of keys -/

/-- A key is written like the identity, unless it is a floating-point number. -/
theorem keyText_of_termKey? {value key : Json} {identity : String}
    (h : termKey? value = some (identity, key)) (hvalue : value.isFloating = false) (n : Nat) :
    (⟨key, n, []⟩ : Bucket).keyText = identity := by
  cases value with
  | str text =>
    obtain ⟨rfl, rfl⟩ := Prod.mk.inj (Option.some.inj h)
    rfl
  | bool flag =>
    obtain ⟨rfl, rfl⟩ := Prod.mk.inj (Option.some.inj h)
    rfl
  | num number =>
    rw [termKey?] at h
    cases hint : number.toInt64? with
    | none => simp [Json.isFloating, hint] at hvalue
    | some i =>
      rw [hint] at h
      obtain ⟨rfl, rfl⟩ := Prod.mk.inj (Option.some.inj h)
      rfl
  | null => cases h
  | arr items => cases h
  | obj fields => cases h

/-! ## Accounts -/

namespace Operation

variable {field : String} {hits : List Document} {sorted : List TermBucket} {bucket : TermBucket}

/-- **The buckets together count every identity of every document.** -/
theorem sum_count_termBuckets (field : String) (hits : List Document) :
    ((termBuckets field hits).map TermBucket.count).sum
      = (hits.map fun document => (document.terms field).length).sum := by
  rw [termBuckets, TermGroup.buckets, List.map_map, ← TermGroup.sum_length_members]
  rfl

theorem count_pos (h : bucket ∈ termBuckets field hits) : 0 < bucket.count := by
  obtain ⟨group, hgroup, rfl⟩ := List.mem_map.mp h
  exact List.length_pos_iff.mpr (TermGroup.members_ne_nil hgroup)

/-- A bucket is written like its identity, unless its values are floating-point numbers. -/
theorem keyText_view (h : bucket ∈ termBuckets field hits)
    (hvalues : ∀ document ∈ hits, ∀ value ∈ document.values field, value.isFloating = false) :
    bucket.view.keyText = bucket.identity := by
  obtain ⟨group, hgroup, rfl⟩ := List.mem_map.mp h
  obtain ⟨document, hdocument, value, hvalue, hkey⟩ := TermGroup.exists_termKey?_of_mem hgroup
  exact keyText_of_termKey? hkey (hvalues document hdocument value hvalue) _

/-- The texts under which values are listed. -/
def shownTexts (size : Nat) (sorted : List TermBucket) : List String :=
  (sorted.take size).map fun bucket => bucket.view.keyText

/-- Hits with one value at most are missing, cut off, or in a bucket that is listed. -/
theorem total_eq (hperm : sorted.Perm (termBuckets field hits))
    (h : ∀ document ∈ hits, document.isSingle field = true) (size : Nat) :
    let result := termsOf field size hits sorted
    result.total = result.missing + result.other
      + ((sorted.take size).map TermBucket.count).sum := by
  have hmissing := missingCount_add_sum h
  have hall := sum_count_termBuckets field hits
  rw [← (hperm.map TermBucket.count).sum_eq] at hall
  have hsplit := congrArg (fun buckets => (buckets.map TermBucket.count).sum)
    (List.take_append_drop size sorted)
  simp only [List.map_append, List.sum_append] at hsplit
  show hits.length = missingCount field hits + ((sorted.drop size).map TermBucket.count).sum + _
  omega

/-- **Nothing is lost exactly if no two values are listed under the same text.** -/
theorem termsOf_accounts (hperm : sorted.Perm (termBuckets field hits))
    (h : ∀ document ∈ hits, document.isSingle field = true) (size : Nat) :
    let result := termsOf field size hits sorted
    result.missing + result.other + (result.terms.map Prod.snd).sum ≤ result.total
      ∧ (result.total = result.missing + result.other + (result.terms.map Prod.snd).sum
        ↔ (shownTexts size sorted).Nodup) := by
  intro result
  let shown := sorted.take size
  let pairs := (shown.map TermBucket.view).map fun bucket => (bucket.keyText, bucket.count)
  have htotal : result.total
      = result.missing + result.other + (shown.map TermBucket.count).sum :=
    total_eq hperm h size
  have hcounts : (pairs.map Prod.snd).sum = (shown.map TermBucket.count).sum := by
    simp only [pairs, List.map_map]
    rfl
  have htexts : pairs.map Prod.fst = shownTexts size sorted := by
    simp only [pairs, List.map_map]
    rfl
  have hle : (result.terms.map Prod.snd).sum ≤ (pairs.map Prod.snd).sum :=
    Keyed.sum_ofList_le pairs
  have hiff : (result.terms.map Prod.snd).sum = (pairs.map Prod.snd).sum
      ↔ (pairs.map Prod.fst).Nodup := by
    refine Keyed.sum_ofList_eq_iff fun pair hpair => ?_
    obtain ⟨view, hview, rfl⟩ := List.mem_map.mp hpair
    obtain ⟨bucket, hbucket, rfl⟩ := List.mem_map.mp hview
    exact count_pos (hperm.mem_iff.mp (List.mem_of_mem_take hbucket))
  rw [htexts] at hiff
  rw [← hiff]
  omega

/-- Values that are no floating-point numbers are listed under texts of their own. -/
theorem nodup_shownTexts (hperm : sorted.Perm (termBuckets field hits))
    (h : ∀ document ∈ hits, ∀ value ∈ document.values field, value.isFloating = false)
    (size : Nat) : (shownTexts size sorted).Nodup := by
  have htexts : shownTexts size sorted = (sorted.map TermBucket.identity).take size := by
    rw [shownTexts, ← List.map_take]
    exact List.map_congr_left fun bucket hbucket =>
      keyText_view (hperm.mem_iff.mp (List.mem_of_mem_take hbucket)) h
  have hnodup : (sorted.map TermBucket.identity).Nodup :=
    (hperm.map TermBucket.identity).nodup_iff.mpr (TermGroup.nodup_buckets _ field hits)
  rw [htexts]
  exact hnodup.sublist (List.take_sublist _ _)

end Operation

namespace Searcher

variable {searcher : Searcher} {store : Store} {now : Instant} {scope : SearchScope} {q f : Clause}
  {plan : SearchPlan} {field : String} {direction : Direction} {sorted : List TermBucket}

/-- What a search gives if the buckets of its hits can be sorted. -/
theorem exists_run_terms (hplan : searcher.plan now scope none = .ok plan)
    (hquery : Query.parse scope.query = .ok q)
    (hfilter : Query.parse (scope.filter.getD "*") = .ok f) (size : Nat)
    (hsort : store.sorter.sort? (Operation.byCount direction) (Operation.termBuckets field
      (store.hits plan.request.indices (q.selects f plan.window.wholeMillis))) = some sorted) :
    ∃ reported,
      (searcher.run store.backend now scope (.terms field size direction)).result = .ok reported
      ∧ reported.result = Operation.termsOf field size
        (store.hits plan.request.indices (q.selects f plan.window.wholeMillis)) sorted :=
  exists_run_eq_ok store hplan hquery hfilter
    (Operation.read_terms_none store.sorter field size direction _)
    (by rw [Operation.onHits_terms, Sorter.sorted_of_some hsort]; rfl)

/-- What a search gives if there is no end to the sorting. -/
theorem run_terms_of_none (hplan : searcher.plan now scope none = .ok plan)
    (hquery : Query.parse scope.query = .ok q)
    (hfilter : Query.parse (scope.filter.getD "*") = .ok f) (size : Nat)
    (hsort : store.sorter.sort? (Operation.byCount direction) (Operation.termBuckets field
      (store.hits plan.request.indices (q.selects f plan.window.wholeMillis))) = none) :
    (searcher.run store.backend now scope (.terms field size direction)).result
      = .error (.backend .unsorted) := by
  obtain ⟨hw, hn⟩ := plan_eq_ok hplan
  rw [run_eq_onHits scope hw hn hquery hfilter (Operation.read_terms_none store.sorter ..),
    Operation.onHits_terms, Sorter.sorted_of_none hsort]
  rfl

/-- **What a search for the most frequent values gives**: nothing, if there is no end to the sorting
of the buckets, and else a result with what holds for the hits and their buckets as sorted. -/
theorem run_terms_cases (store : Store) (hplan : searcher.plan now scope none = .ok plan)
    (hquery : Query.parse scope.query = .ok q)
    (hfilter : Query.parse (scope.filter.getD "*") = .ok f) (field : String) (size : Nat)
    (direction : Direction) {P : List TermBucket → Reported TermsResult → Prop}
    (h : ∀ sorted reported,
      let hits := store.hits plan.request.indices (q.selects f plan.window.wholeMillis)
      sorted.Perm (Operation.termBuckets field hits) →
        reported.result = Operation.termsOf field size hits sorted → P sorted reported) :
    let hits := store.hits plan.request.indices (q.selects f plan.window.wholeMillis)
    let outcome := (searcher.run store.backend now scope (.terms field size direction)).result
    match store.sorter.sort? (Operation.byCount direction) (Operation.termBuckets field hits) with
    | none => outcome = .error (.backend .unsorted)
    | some sorted => ∃ reported, outcome = .ok reported ∧ P sorted reported := by
  intro hits outcome
  split
  · next hsort => exact run_terms_of_none hplan hquery hfilter size hsort
  · next sorted hsort =>
    obtain ⟨reported, hrun, hresult⟩ := exists_run_terms hplan hquery hfilter size hsort
    exact ⟨reported, hrun, h sorted reported (store.sorter.perm hsort) hresult⟩

end Searcher

/-! ## Keys that cross -/

/-- A store with crossed documents, and a sorter that makes nothing of them. -/
def Store.crossed : Store := ⟨[("a_0", LogSearch.crossed)], [], .insertion 20⟩

/-- All of them are found. -/
theorem Store.hits_crossed (f : Clause) :
    crossed.hits ["a_0"] ((Clause.term .all).selects f (⟨.epoch, .epoch⟩ : Window).wholeMillis)
      = LogSearch.crossed.filter fun document => f.matches document := by
  have hsearched : crossed.searched ["a_0"] = LogSearch.crossed := List.append_nil _
  rw [hits, hsearched]
  refine List.filter_congr fun document hdocument => ?_
  obtain ⟨value, _, rfl⟩ := List.mem_map.mp hdocument
  have hquery : (Clause.term .all).matches ⟨.epoch, [("n", value)]⟩ = true := rfl
  have hcovers : (⟨.epoch, .epoch⟩ : Window).wholeMillis.covers .epoch = true := by decide
  rw [Clause.selects, hquery, hcovers, Bool.true_and, Bool.true_and]

namespace Searcher

/-- A search for their most frequent values has no result. -/
theorem run_terms_crossed (searcher : Searcher) (size : Nat) :
    (searcher.run Store.crossed.backend .epoch
      ⟨"*", none, .absolute .epoch .epoch, .pattern "a_0"⟩ (.terms "n" size .desc)).result
      = .error (.backend .unsorted) := by
  have hquery : Query.parse "*" = .ok (.term .all) := rfl
  let scope : SearchScope := ⟨"*", none, .absolute .epoch .epoch, .pattern "a_0"⟩
  have hplan : searcher.plan .epoch scope none
      = .ok ⟨⟨.epoch, .epoch⟩, ["a_0"], searcher.body scope ⟨.epoch, .epoch⟩ none⟩ := by cbv
  have hall : (LogSearch.crossed.filter fun document => (Clause.term .all).matches document)
      = LogSearch.crossed :=
    List.filter_eq_self.mpr fun _ _ => rfl
  refine run_terms_of_none hplan hquery hquery size ?_
  rw [Store.hits_crossed, hall]
  exact sort?_crossed

/-! ## Accounts of searches -/

/-- **When the most frequent values account for every hit.** Of hits with one value at most, no more
are counted than there are, and all of them exactly if no two values are listed under the same
text, in whatever order the buckets come. Texts, truth values and integers of 64 bits never are.
There is no result if there is no end to the sorting of the buckets; keys that agree are sorted. -/
theorem terms_accounts_iff (searcher : Searcher) (store : Store) (now : Instant)
    (scope : SearchScope) (q f : Clause) (field : String) (size : Nat) (direction : Direction)
    (hquery : Query.parse scope.query = .ok q)
    (hfilter : Query.parse (scope.filter.getD "*") = .ok f) :
    let outcome := (searcher.run store.backend now scope (.terms field size direction)).result
    match searcher.plan now scope none with
    | .error failure => outcome = .error failure.error
    | .ok plan =>
      let hits := store.hits plan.request.indices (q.selects f plan.window.wholeMillis)
      let buckets := Operation.termBuckets field hits
      (match store.sorter.sort? (Operation.byCount direction) buckets with
      | none => outcome = .error (.backend .unsorted)
      | some sorted => ∃ reported, outcome = .ok reported ∧ sorted.Perm buckets
        ∧ ((∀ document ∈ hits, document.isSingle field = true) →
          let result := reported.result
          let counted := result.missing + result.other + (result.terms.map Prod.snd).sum
          result.total = hits.length ∧ counted ≤ result.total
          ∧ (counted = result.total ↔ (Operation.shownTexts size sorted).Nodup)
          ∧ ((∀ document ∈ hits, ∀ value ∈ document.values field, value.isFloating = false) →
            counted = result.total)))
      ∧ (TermBucket.Agree buckets →
        ∃ sorted, store.sorter.sort? (Operation.byCount direction) buckets = some sorted) := by
  intro outcome
  split
  · next failure hplan => exact run_of_plan_error hplan store.backend _
  · next plan hplan =>
    intro hits buckets
    refine ⟨run_terms_cases store hplan hquery hfilter field size direction ?_,
      Operation.exists_sort?_of_agree store.sorter direction⟩
    intro sorted reported hits hperm hresult
    refine ⟨hperm, fun hsingle => ?_⟩
    obtain ⟨hle, hiff⟩ := Operation.termsOf_accounts hperm hsingle size
    rw [hresult]
    intro result counted
    have hcounted : counted = result.total ↔ (Operation.shownTexts size sorted).Nodup :=
      eq_comm.trans hiff
    exact ⟨rfl, hle, hcounted, fun hvalues =>
      hcounted.mpr (Operation.nodup_shownTexts hperm hvalues size)⟩

/-- A text, an integer and a document without a value. -/
theorem terms_accounts_words :
    let store : Store := ⟨[("a_0", [⟨.epoch, [("n", .str "x")]⟩, ⟨.epoch, [("n", .int 1)]⟩,
      ⟨.epoch, []⟩])], [], .insertion 20⟩
    let searcher : Searcher :=
      ⟨⟨(⟨[]⟩ : RangeTable).lookup, lookupStream [], fun _ _ => .error .calendarEnd⟩, true⟩
    let scope : SearchScope := ⟨"*", none, .absolute .epoch .epoch, .pattern "a_0"⟩
    ∃ reported, (searcher.run store.backend .epoch scope (.terms "n" 1 .desc)).result = .ok reported
      ∧ reported.result.missing + reported.result.other
          + (reported.result.terms.map Prod.snd).sum = reported.result.total := by
  intro store searcher scope
  have hquery : Query.parse "*" = .ok (.term .all) := rfl
  have hplan : searcher.plan .epoch scope none
      = .ok ⟨⟨.epoch, .epoch⟩, ["a_0"], searcher.body scope ⟨.epoch, .epoch⟩ none⟩ := by cbv
  have hhits : store.hits ["a_0"] ((Clause.term .all).selects (.term .all)
      (⟨.epoch, .epoch⟩ : Window).wholeMillis) = store.documents "a_0" := by cbv
  have haccounts := terms_accounts_iff searcher store .epoch scope (.term .all) (.term .all) "n" 1
    .desc hquery hquery
  rw [hplan] at haccounts
  simp only [hhits] at haccounts
  obtain ⟨hresult, hsorts⟩ := haccounts
  obtain ⟨sorted, hsort⟩ := hsorts (by unfold TermBucket.Agree; decide +kernel)
  rw [hsort] at hresult
  obtain ⟨reported, hrun, -, hwords⟩ := hresult
  exact ⟨reported, hrun, (hwords (by decide)).2.2.2 (by decide)⟩

/-- A number with decimals and a text are listed under one text, and one of them is lost. -/
theorem terms_accounts_fails :
    let one : Binary64 := .finite false 4503599627370496 (-52)
    let store : Store :=
      ⟨[("a_0", [⟨.epoch, [("n", .num (.float one))]⟩, ⟨.epoch, [("n", .str "1.0")]⟩])], [],
        .insertion 20⟩
    let searcher : Searcher :=
      ⟨⟨(⟨[]⟩ : RangeTable).lookup, lookupStream [], fun _ _ => .error .calendarEnd⟩, true⟩
    let scope : SearchScope := ⟨"*", none, .absolute .epoch .epoch, .pattern "a_0"⟩
    Query.parse "*" = .ok (.term .all)
      ∧ (∀ document ∈ store.documents "a_0", document.isSingle "n" = true)
      ∧ ∃ reported,
        (searcher.run store.backend .epoch scope (.terms "n" 10 .desc)).result = .ok reported
          ∧ reported.result = { total := 2, missing := 0, other := 0, terms := [("1.0", 1)] }
          ∧ reported.result.missing + reported.result.other
            + (reported.result.terms.map Prod.snd).sum ≠ reported.result.total := by
  intro one store searcher scope
  have hquery : Query.parse "*" = .ok (.term .all) := rfl
  have hplan : searcher.plan .epoch scope none
      = .ok ⟨⟨.epoch, .epoch⟩, ["a_0"], searcher.body scope ⟨.epoch, .epoch⟩ none⟩ := by cbv
  have hhits : store.hits ["a_0"] ((Clause.term .all).selects (.term .all)
      (⟨.epoch, .epoch⟩ : Window).wholeMillis) = store.documents "a_0" := by cbv
  let sorted := TermBucket.sort (Operation.byCount .desc)
    (Operation.termBuckets "n" (store.documents "a_0"))
  have hterms : Operation.termsOf "n" 10 (store.documents "a_0") sorted
      = { total := 2, missing := 0, other := 0, terms := [("1.0", 1)] } := by decide +kernel
  have hsort : store.sorter.sort? (Operation.byCount .desc) (Operation.termBuckets "n"
      (store.hits ["a_0"] ((Clause.term .all).selects (.term .all)
        (⟨.epoch, .epoch⟩ : Window).wholeMillis))) = some sorted := by
    rw [hhits]
    exact Sorter.sort?_insertion (by decide +kernel) _
  obtain ⟨reported, hrun, hresult⟩ := exists_run_terms hplan hquery hquery 10 hsort
  rw [hhits, hterms] at hresult
  refine ⟨hquery, by decide, reported, hrun, hresult, ?_⟩
  rw [hresult]
  decide

end Searcher

end LogSearch
