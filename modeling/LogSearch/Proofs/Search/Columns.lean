import Mathlib
import LogSearch.Proofs.Json.Numbers
import LogSearch.Proofs.Search.Histogram

/-!
# The columns of a histogram of a field

A histogram of a field has, beside the documents of each bucket, their total and mean; the full one
adds how many values there are, the least, the greatest, and how many are different. What is added
does not touch the rest (`statsOf_basic`). It is computed from two sides, the numbers among the
values and the identities of all values: there are no extremes exactly if there are no numbers
(`Moments.view_absent_iff`), and where all values are numbers there are at most as many identities
(`Metric.length_identities_le`).

The number of different values comes back as a floating-point number. Up to `2^53` that is exact
(`Operation.roundedCount_eq`).

Main statement: asking for all columns only adds columns (`fieldHistogram_columns`).
-/

namespace LogSearch

/-! ## Extremes -/

theorem Binary64.least_eq (x y : Binary64) : x.least y = x ∨ x.least y = y := by
  unfold least
  split
  · exact .inr rfl
  · exact .inl rfl
  · split
    · exact .inr rfl
    · exact .inl rfl

theorem Binary64.greatest_eq (x y : Binary64) : x.greatest y = x ∨ x.greatest y = y := by
  unfold greatest
  split
  · exact .inr rfl
  · exact .inl rfl
  · split
    · exact .inr rfl
    · exact .inl rfl

theorem Binary64.finite?_of_isFinite {x : Binary64} (h : x.isFinite = true) : x.finite? = some x :=
  if_pos h

namespace Moments

variable {xs : List Binary64}

theorem of_concat (xs : List Binary64) (x : Binary64) : of (xs ++ [x]) = (of xs).add x := by
  rw [of, List.foldl_append]
  rfl

/-- **The extremes of numbers are among them.** -/
theorem exists_extremes (h : xs ≠ []) :
    (∃ x ∈ xs, (of xs).least = some x) ∧ ∃ x ∈ xs, (of xs).greatest = some x := by
  induction xs using List.reverseRecOn with
  | nil => exact absurd rfl h
  | append_singleton xs x ih =>
    have hlast : x ∈ xs ++ [x] := List.mem_append_right xs (List.mem_singleton_self x)
    rw [of_concat]
    by_cases hnil : xs = []
    · subst hnil
      exact ⟨⟨x, hlast, rfl⟩, x, hlast, rfl⟩
    · obtain ⟨⟨y, hy, hleast⟩, z, hz, hgreatest⟩ := ih hnil
      simp only [add, hleast, hgreatest]
      constructor
      · rcases Binary64.least_eq y x with heq | heq
        · exact ⟨y, List.mem_append_left [x] hy, congrArg some heq⟩
        · exact ⟨x, hlast, congrArg some heq⟩
      · rcases Binary64.greatest_eq z x with heq | heq
        · exact ⟨z, List.mem_append_left [x] hz, congrArg some heq⟩
        · exact ⟨x, hlast, congrArg some heq⟩

/-- **There are extremes exactly if there are numbers.** A mean may be missing beside them, if the
sum is too large. -/
theorem view_absent_iff (h : ∀ x ∈ xs, x.isFinite = true) :
    (of xs).view.count = 0
      ↔ (of xs).view.least = none ∧ (of xs).view.greatest = none ∧ (of xs).view.mean = none := by
  have hcount : (of xs).view.count = xs.length := count_of xs
  rw [hcount, List.length_eq_zero_iff]
  constructor
  · rintro rfl
    exact ⟨rfl, rfl, rfl⟩
  · rintro ⟨hleast, -, -⟩
    by_contra hne
    obtain ⟨⟨x, hx, heq⟩, -⟩ := exists_extremes hne
    have hview : (of xs).view.least = some x := by
      rw [view, heq, Option.bind_some, Binary64.finite?_of_isFinite (h x hx)]
    rw [hview] at hleast
    cases hleast

end Moments

/-! ## Different values -/

theorem length_distinctTerms_le (seen : List String) (terms : List (String × Json)) :
    (distinctTerms seen terms).length ≤ terms.length := by
  induction terms generalizing seen with
  | nil => exact Nat.le_refl 0
  | cons term terms ih =>
    rw [distinctTerms]
    split
    · exact Nat.le_succ_of_le (ih seen)
    · exact Nat.succ_le_succ (ih _)

/-- **Where all values are numbers, there are at most as many identities.** -/
theorem Metric.length_identities_le {field : String} {documents : List Document}
    (h : ∀ document ∈ documents, ∀ value ∈ document.values field, ∃ n, value = .num n) :
    (identities field documents).length ≤ (moments field documents).count := by
  have hnumbers : ∀ document ∈ documents,
      (document.numbers field).length = (document.values field).length := by
    intro document hdocument
    rw [Document.numbers, List.length_filterMap_eq_countP, List.countP_eq_length]
    intro value hvalue
    obtain ⟨n, rfl⟩ := h document hdocument value hvalue
    rfl
  calc (identities field documents).length
      ≤ (documents.flatMap fun document => document.values field).length := by
        rw [identities, List.length_map]
        exact (length_distinctTerms_le [] _).trans (List.length_filterMap_le _ _)
    _ = (moments field documents).count := by
        rw [count_moments, List.length_flatMap, List.map_congr_left hnumbers]

namespace Operation

/-- **Up to `2^53` values are counted exactly.** -/
theorem roundedCount_eq {n : Nat} (h : n ≤ 2 ^ 53) : roundedCount n = n := by
  obtain hlt | rfl := Nat.lt_or_eq_of_le h
  · obtain ⟨k, hk⟩ := Binary64.exists_ofNat hlt
    have hpart : (Binary64.ofNat n).truncate? = some (n : Int) := by
      rw [hk]
      by_cases hzero : k = 0 <;> simp [Binary64.truncate?, hzero]
    rw [roundedCount, Binary64.ofInt_natCast]
    rw [hk] at hpart ⊢
    simp only [Binary64.clampTo, hpart, Option.getD_some]
    omega
  · decide +kernel

end Operation

/-! ## Columns -/

/-- The columns that are always there. -/
def BucketStats.basic (stats : BucketStats) : BucketStats :=
  { stats with count := none, least := none, greatest := none, cardinality := none }

theorem Operation.statsOf_basic (field : String) (members : List Document) :
    (statsOf field true members).basic = statsOf field false members := rfl

/-- What the added columns say of the documents of a bucket: how many numbers their values are, and
how many different values they have. -/
structure BucketStats.Describes (stats : BucketStats) (field : String) (members : List Document) :
    Prop where
  count_eq : stats.count = some (Metric.moments field members).count
  cardinality_eq :
    stats.cardinality = some (Operation.roundedCount (Metric.identities field members).length)
  absent : stats.count = some 0 ↔ stats.least = none ∧ stats.greatest = none ∧ stats.mean = none
  /-- If all values are numbers, no more of them are different than there are. -/
  within : (∀ document ∈ members, ∀ value ∈ document.values field, ∃ n, value = .num n) →
    (Metric.identities field members).length ≤ (Metric.moments field members).count
      ∧ ((Metric.identities field members).length ≤ 2 ^ 53 →
        ∀ cardinality ∈ stats.cardinality, ∀ count ∈ stats.count, cardinality ≤ count)

/-- **What full statistics say of documents.** -/
theorem Operation.statsOf_describes {field : String} {members : List Document}
    (h : ∀ document ∈ members, document.Fits) :
    (statsOf field true members).Describes field members := by
  have hfinite : ∀ x ∈ members.flatMap (fun document => document.numbers field),
      x.isFinite = true := by
    intro x hx
    obtain ⟨document, hdocument, hx⟩ := List.mem_flatMap.mp hx
    exact (h document hdocument).isFinite x hx
  have habsent := Option.some_inj.trans (Moments.view_absent_iff hfinite)
  refine ⟨rfl, rfl, habsent, fun hnumbers => ?_⟩
  have hle := Metric.length_identities_le hnumbers
  refine ⟨hle, fun hexact cardinality hcardinality count hcount => ?_⟩
  obtain rfl := Option.some.inj hcardinality
  obtain rfl := Option.some.inj hcount
  rw [roundedCount_eq hexact]
  exact hle

/-- Documents that are not grouped have one of them before the first week of the calendar. -/
theorem Histogram.of_groups_error {field : String} {interval : Interval}
    {documents : List Document} {e : BackendError} (h : groups field interval documents = .error e) :
    e = .calendarEnd ∧ ∃ document ∈ documents, ¬Placed field interval document := by
  by_cases hplaced : ∀ document ∈ documents, Placed field interval document
  · obtain ⟨found, hfound, -⟩ := groups_grouped hplaced
    rw [hfound] at h
    cases h
  · simp only [not_forall, exists_prop] at hplaced
    rw [groups_eq_error hplaced] at h
    exact ⟨(Except.error.inj h).symm, hplaced⟩

namespace Searcher

section

variable {searcher : Searcher} {now : Instant} {scope : SearchScope} {plan : SearchPlan}
  {q f : Clause}

/-- A range between two instants does not depend on the clock. -/
theorem plan_absolute {start stop : Instant} (hrange : scope.range = .absolute start stop)
    (now later : Instant) : searcher.plan now scope none = searcher.plan later scope none := by
  rw [Searcher.plan, Searcher.plan, hrange]
  rfl

/-- **What a planned histogram of a field gives.** -/
theorem run_fieldHistogram (store : Store) (hplan : searcher.plan now scope none = .ok plan)
    (hquery : Query.parse scope.query = .ok q)
    (hfilter : Query.parse (scope.filter.getD "*") = .ok f) (field : String) (interval : Interval)
    (full : Bool) :
    let operation := Operation.fieldHistogram field interval full
    (searcher.run store.backend now scope operation).result
      = match Histogram.groups "timestamp" interval
          (store.hits plan.request.indices (q.selects f plan.window.wholeMillis)) with
        | .error e => .error (.backend e)
        | .ok found => .ok
          { result :=
              ⟨interval, plan.window, Operation.bySecond (Operation.statsOf field full) found⟩
            tookMillis := 0
            builtQuery := (searcher.body scope plan.window operation.aggregations).render } := by
  intro operation
  obtain ⟨hw, hn⟩ := plan_eq_ok hplan
  rw [run_eq_onHits scope hw hn hquery hfilter (Operation.read_fieldHistogram_none ..),
    Operation.onHits_fieldHistogram]
  cases hgroups : Histogram.groups "timestamp" interval
    (store.hits plan.request.indices (q.selects f plan.window.wholeMillis)) with
  | error e => rfl
  | ok found =>
    have hsorted := (Histogram.grouped_of_eq_ok hgroups).sorted_bySecond
      (Operation.statsOf field full)
    simp only [Except.map, hsorted.ofList_eq]
    rfl

end

/-- **Asking for all columns only adds columns.** Of a range between two instants, at whatever time
each of the two histograms is asked for, both fail with the same error, or both have the same
buckets, which differ in the added columns only. These say how many numbers there are, with neither
extremes nor a mean exactly if there are none, and how many values are different: if all are numbers,
at most as many as there are. Only beyond `2^53` different values, which no memory holds, is their
number rounded. -/
theorem fieldHistogram_columns (searcher : Searcher) (store : Store) (now later : Instant)
    (scope : SearchScope) (start stop : Instant) (q f : Clause) (field : String)
    (interval : Interval) (hrange : scope.range = .absolute start stop)
    (hquery : Query.parse scope.query = .ok q)
    (hfilter : Query.parse (scope.filter.getD "*") = .ok f) (hstore : store.Fits) :
    let plain := (searcher.run store.backend now scope (.fieldHistogram field interval false)).result
    let full := (searcher.run store.backend later scope (.fieldHistogram field interval true)).result
    match searcher.plan now scope none with
    | .error failure => plain = .error failure.error ∧ full = .error failure.error
    | .ok plan =>
      let hits := store.hits plan.request.indices (q.selects f plan.window.wholeMillis)
      (interval = .week ∧ start.day < minDay + 6 ∧ plain = .error (.backend .calendarEnd)
          ∧ full = .error (.backend .calendarEnd))
        ∨ ∃ few all, plain = .ok few ∧ full = .ok all
          ∧ few.result = { all.result with
              buckets := all.result.buckets.map fun bucket => (bucket.1, bucket.2.basic) }
          ∧ ∀ bucket ∈ all.result.buckets, bucket.2.Describes field
            (Histogram.atSecond "timestamp" interval hits bucket.1) := by
  intro plain full
  have hlater : searcher.plan now scope none = searcher.plan later scope none :=
    plan_absolute hrange now later
  split
  · next failure hplan =>
    exact ⟨run_of_plan_error hplan store.backend _,
      run_of_plan_error (hlater ▸ hplan) store.backend _⟩
  · next plan hplan =>
    intro hits
    have hplain := run_fieldHistogram store hplan hquery hfilter field interval false
    have hfull := run_fieldHistogram store (hlater ▸ hplan) hquery hfilter field interval true
    cases hgroups : Histogram.groups "timestamp" interval hits with
    | error e =>
      rw [hgroups] at hplain hfull
      obtain ⟨rfl, document, hdocument, hunplaced⟩ := Histogram.of_groups_error hgroups
      have hweek : ¬(interval = .week → minDay + 6 ≤ plan.window.start.day) := fun hweek =>
        hunplaced (placed_of_mem_hits (w := plan.window.wholeMillis) hweek hdocument)
      rw [window_of_plan hplan hrange] at hweek
      obtain ⟨hinterval, hearly⟩ := Classical.not_imp.mp hweek
      exact .inl ⟨hinterval, not_le.mp hearly, hplain, hfull⟩
    | ok found =>
      rw [hgroups] at hplain hfull
      have hg := Histogram.grouped_of_eq_ok hgroups
      refine .inr ⟨_, _, hplain, hfull, ?_, fun bucket hbucket => ?_⟩
      · simp only [Operation.bySecond, List.map_map, Function.comp_def, Operation.statsOf_basic]
      · obtain ⟨hvalue, -⟩ := hg.mem_bySecond hbucket
        rw [hvalue]
        refine Operation.statsOf_describes fun document hdocument => ?_
        obtain ⟨⟨index, hmem⟩, -⟩ := Store.of_mem_hits (List.mem_filter.mp hdocument).1
        exact hstore index document hmem

/-- A bucket of two documents, one of them with three values of which two are equal. -/
theorem fieldHistogram_columns_repeated :
    let store : Store := ⟨[("a_0", [⟨.epoch, [("n", .arr [.int 1, .int 1, .int 2])]⟩,
      ⟨.epoch, [("n", .null)]⟩])], [], .insertion 20⟩
    let searcher : Searcher :=
      ⟨⟨(⟨[]⟩ : RangeTable).lookup, lookupStream [], fun _ _ => .error .calendarEnd⟩, true⟩
    let scope : SearchScope := ⟨"*", none, .absolute .epoch .epoch, .pattern "a_0"⟩
    ∃ few all,
      (searcher.run store.backend .epoch scope (.fieldHistogram "n" .day false)).result = .ok few
      ∧ (searcher.run store.backend .epoch scope (.fieldHistogram "n" .day true)).result = .ok all
      ∧ few.result = { all.result with
          buckets := all.result.buckets.map fun bucket => (bucket.1, bucket.2.basic) }
      ∧ all.result.buckets.map (fun bucket => (bucket.2.count, bucket.2.cardinality))
        = [(some 3, some 2)] := by
  intro store searcher scope
  have hquery : Query.parse "*" = .ok (.term .all) := rfl
  have hplan : searcher.plan .epoch scope none
      = .ok ⟨⟨.epoch, .epoch⟩, ["a_0"], searcher.body scope ⟨.epoch, .epoch⟩ none⟩ := by cbv
  have hstore : store.Fits := by
    intro index document hdocument
    have hone : (Json.int 1).Fits ∧ (Json.int 2).Fits :=
      ⟨.num ⟨by decide, by decide⟩, .num ⟨by decide, by decide⟩⟩
    rcases List.mem_cons.mp (Store.mem_of_mem_documents_single hdocument) with rfl | hdocument
    · refine .obj fun field hfield => ?_
      rw [List.mem_singleton.mp hfield]
      exact .arr (by simp [hone])
    · rw [List.mem_singleton.mp hdocument]
      refine .obj fun field hfield => ?_
      rw [List.mem_singleton.mp hfield]
      exact .null
  have hcolumns := fieldHistogram_columns searcher store .epoch .epoch scope .epoch .epoch
    (.term .all) (.term .all) "n" .day rfl hquery hquery hstore
  have hgroups : Histogram.groups "timestamp" .day (store.hits ["a_0"]
      ((Clause.term .all).selects (.term .all) (⟨.epoch, .epoch⟩ : Window).wholeMillis))
      = .ok [(.epoch, store.documents "a_0")] := by cbv
  have hfull := run_fieldHistogram store hplan hquery hquery "n" .day true
  rw [hgroups] at hfull
  rw [hplan] at hcolumns
  rcases hcolumns with ⟨hweek, -⟩ | ⟨few, all, hfew, hall, hsame, -⟩
  · cases hweek
  · refine ⟨few, all, hfew, hall, hsame, ?_⟩
    obtain rfl := Except.ok.inj (hall.symm.trans hfull)
    decide +kernel

end Searcher

end LogSearch
