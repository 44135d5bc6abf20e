import Mathlib
import LogSearch.Proofs.Search.Terms
import LogSearch.Proofs.Time.Bucket

/-!
# Histograms and the hits they are made of

Hits are grouped by the start of their bucket and listed by its second. Starts are the first
instants of their seconds, so no two buckets share one, and what stands under a second is said of
the documents whose bucket starts there (`get?_bySecond`). Every hit lies in one bucket, so what is
counted bucket by bucket is counted once for each hit (`sum_map`).

Main statement: histograms partition the hits of a search, and agree with its count, with the
statistics of a field and with the total of its values (`histogram_partitions`).
-/

namespace LogSearch

/-! ## Statistics of buckets -/

namespace Operation

/-- What is computed in each bucket of a histogram of a field. -/
def statsAggregations (field : String) (full : Bool) : List (String × Aggregation) :=
  (if full then [("cardinality", .metric .cardinality field)] else [])
    ++ [("stats", .metric .stats field)]

/-- The results of that. -/
def statsResults (field : String) (full : Bool) (members : List Document) : List (String × Json) :=
  (if full then [("cardinality", Metric.cardinality.run field members)] else [])
    ++ [("stats", Metric.stats.run field members)]

/-- What a bucket holds beside its key and its count. -/
def statsRest (field : String) (full : Bool) (group : Instant × List Document) :
    List (String × Json) :=
  Keyed.insertAll (statsResults field full group.2)
    [("key_as_string", .str group.1.renderMillis)]

/-- A number of values, as it comes back from structured data. -/
def roundedCount (n : Nat) : Nat := ((Binary64.ofInt n).clampTo 0 0xFFFFFFFFFFFFFFFF).toNat

/-- The statistics of the documents of a bucket. -/
def statsOf (field : String) (full : Bool) (members : List Document) : BucketStats :=
  let view := (Metric.moments field members).view
  { documents := members.length
    total := view.sum
    mean := view.mean
    count := if full then some view.count else none
    least := if full then view.least else none
    greatest := if full then view.greatest else none
    cardinality :=
      if full then some (roundedCount (Metric.identities field members).length) else none }

/-- The number of values is read back. -/
theorem cardinalityOf_ofGroup (field : String) (group : Instant × List Document) :
    cardinalityOf (Bucket.ofGroup (statsRest field true) group)
      = .ok (roundedCount (Metric.identities field group.2).length) := by
  have hview : (Bucket.ofGroup (statsRest field true) group).inner ValueView.ofJson? "cardinality"
      = .ok ⟨some (Binary64.ofInt (Metric.identities field group.2).length)⟩ :=
    Bucket.inner_eq_ok rfl rfl
  rw [cardinalityOf, hview]
  rfl

/-- **What is read from a bucket.** -/
theorem bucketStats_ofGroup (field : String) (full : Bool) (group : Instant × List Document) :
    bucketStats full (Bucket.ofGroup (statsRest field full) group)
      = .ok (statsOf field full group.2) := by
  have hstats : (Bucket.ofGroup (statsRest field full) group).inner StatsView.ofJson? "stats"
      = .ok (Metric.moments field group.2).view := by
    refine Bucket.inner_eq_ok ?_ (Metric.moments field group.2).ofJson?_stats
    cases full <;> rfl
  rw [bucketStats, hstats]
  cases full with
  | false => rfl
  | true =>
    simp only [ok_bind, if_true, cardinalityOf_ofGroup]
    rfl

/-- **What a histogram of a field makes of hits.** -/
theorem onHits_fieldHistogram (sorter : Sorter) (field : String) (interval : Interval) (full : Bool)
    (w : Window) (hits : List Document) :
    (Operation.fieldHistogram field interval full).onHits sorter w hits
      = (Histogram.groups "timestamp" interval hits).map fun found =>
          ⟨interval, w, Keyed.ofList (bySecond (statsOf field full) found)⟩ := by
  have hrequest : Aggregation.ofFields
      [("histogram", Query.histogram interval (some (Query.bucketStats field full)))]
      = [("histogram", .histogram "timestamp" interval 1 (statsAggregations field full))] := by
    cases interval <;> cases full <;> rfl
  refine onHits_buckets (statsResults field full) (statsRest field full) hrequest ?_ ?_
    (bucketStats_ofGroup field full) w hits
  · intro fields members
    cases full <;> rfl
  · intro group
    cases full <;> exact Bucket.ofJson?_obj rfl rfl

/-- Without indices the result is that of no hits. -/
theorem read_fieldHistogram_none (sorter : Sorter) (field : String) (interval : Interval)
    (full : Bool) (w : Window) :
    (Operation.fieldHistogram field interval full).read w none
      = (Operation.fieldHistogram field interval full).onHits sorter w [] := by
  rw [onHits_fieldHistogram]
  rfl

/-- **What statistics of a field make of hits.** -/
theorem onHits_fieldStats (sorter : Sorter) (field : String) (w : Window) (hits : List Document) :
    (Operation.fieldStats field).onHits sorter w hits
      = .ok (fieldStatsResult hits.length (Metric.moments field hits).extendedView) := by
  have hview : aggregationResult ExtendedStatsView.ofJson?
      (some (.obj [("field_stats", (Metric.moments field hits).extendedStats)])) "field_stats"
      = .ok (Metric.moments field hits).extendedView :=
    aggregationResult_eq_ok rfl (Metric.moments field hits).ofJson?_extendedStats
  have hanswer : Store.answer sorter hits (Operation.fieldStats field).aggregations
      = .ok (Store.respond hits
        (some (.obj [("field_stats", (Metric.moments field hits).extendedStats)]))) := rfl
  rw [onHits, hanswer]
  simp only [Except.bind, Operation.fieldStats, Store.respond, hview, ok_bind]
  rfl

/-- Without indices the result is that of no hits. -/
theorem read_fieldStats_none (sorter : Sorter) (field : String) (w : Window) :
    (Operation.fieldStats field).read w none
      = (Operation.fieldStats field).onHits sorter w [] := by
  rw [onHits_fieldStats]
  rfl

end Operation

/-- Numbers are counted document by document. -/
theorem Metric.count_moments (field : String) (documents : List Document) :
    (moments field documents).count
      = (documents.map fun document => (document.numbers field).length).sum := by
  rw [moments, Moments.count_of, List.length_flatMap]

/-! ## Buckets by their seconds -/

namespace Histogram

variable {field : String} {interval : Interval} {documents : List Document} {found : Groups}
  {document : Document} {start : Instant} {group : List Document} {α : Type}
  {valueOf : List Document → α}

/-- The documents whose bucket starts at a second. -/
def atSecond (field : String) (interval : Interval) (documents : List Document) (second : Int) :
    List Document :=
  documents.filter fun document =>
    (startOf field interval document).map Instant.epochSeconds = some second

theorem startOf_timestamp (interval : Interval) (document : Document) :
    startOf "timestamp" interval document = interval.truncate? document.timestamp := by
  rw [startOf, Document.time?, if_pos rfl, Option.bind_some]

theorem nano_of_startOf (h : startOf field interval document = some start) : start.nano = 0 := by
  obtain ⟨t, _, hstart⟩ := Option.bind_eq_some_iff.mp h
  exact (Interval.truncate?_eq_some hstart).1

/-- A group holds the documents of its bucket, and at least one. -/
theorem Grouped.of_mem (hg : Grouped field interval documents found)
    (h : (start, group) ∈ found) :
    group = members field interval documents start
      ∧ ∃ document ∈ documents, startOf field interval document = some start := by
  have hget := hg.sorted.get?_of_mem h
  have hgroup : group = members field interval documents start := by
    rw [← hg.get? start, hget, Option.getD_some]
  refine ⟨hgroup, ?_⟩
  obtain ⟨document, hdocument⟩ := List.exists_mem_of_ne_nil _ (hg.nonempty start group hget)
  rw [hgroup, members, List.mem_filter] at hdocument
  exact ⟨document, hdocument.1, of_decide_eq_true hdocument.2⟩

/-- A document with a bucket lies in a group. -/
theorem Grouped.exists_mem (hg : Grouped field interval documents found)
    (hdocument : document ∈ documents) (hstart : startOf field interval document = some start) :
    ∃ group, (start, group) ∈ found := by
  have hmember : document ∈ (Keyed.get? start found).getD [] := by
    rw [hg.get?]
    exact List.mem_filter.mpr ⟨hdocument, decide_eq_true hstart⟩
  cases hget : Keyed.get? start found with
  | none =>
    rw [hget] at hmember
    cases hmember
  | some group => exact ⟨group, Keyed.mem_of_get? hget⟩

theorem Grouped.nano_of_mem (hg : Grouped field interval documents found)
    (h : (start, group) ∈ found) : start.nano = 0 := by
  obtain ⟨_, document, _, hstart⟩ := hg.of_mem h
  exact nano_of_startOf hstart

/-- A second has one bucket. -/
theorem members_eq_atSecond (hstart : start.nano = 0) :
    members field interval documents start
      = atSecond field interval documents start.epochSeconds := by
  refine List.filter_congr fun document _ => ?_
  rw [decide_eq_decide]
  constructor
  · intro h
    rw [h, Option.map_some]
  · intro h
    obtain ⟨other, hother, heq⟩ := Option.map_eq_some_iff.mp h
    rw [hother, Instant.eq_of_epochSeconds (nano_of_startOf hother) hstart heq]

theorem Grouped.mem_bySecond (hg : Grouped field interval documents found) {second : Int}
    {value : α} (h : (second, value) ∈ Operation.bySecond valueOf found) :
    value = valueOf (atSecond field interval documents second)
      ∧ ∃ document ∈ documents, ∃ start, startOf field interval document = some start
        ∧ start.epochSeconds = second := by
  obtain ⟨⟨start, group⟩, hmem, heq⟩ := List.mem_map.mp h
  have hnano := hg.nano_of_mem hmem
  obtain ⟨hgroup, document, hdocument, hstart⟩ := hg.of_mem hmem
  obtain ⟨rfl, rfl⟩ := Prod.mk.inj heq
  rw [Instant.epochMillis_div hnano, ← members_eq_atSecond hnano, ← hgroup]
  exact ⟨rfl, document, hdocument, start, hstart, rfl⟩

theorem Grouped.sorted_bySecond (hg : Grouped field interval documents found)
    (valueOf : List Document → α) : Keyed.Sorted (Operation.bySecond valueOf found) := by
  refine List.pairwise_map.mpr (hg.sorted.imp_of_mem fun {a b} ha hb hlt => ?_)
  have hanano := hg.nano_of_mem ha
  have hbnano := hg.nano_of_mem hb
  rw [Instant.epochMillis_div hanano, Instant.epochMillis_div hbnano, Int.compare_eq_lt]
  exact Instant.epochSeconds_lt hanano hbnano hlt

/-- **What stands under a second is said of the documents whose bucket starts there.** -/
theorem Grouped.get?_bySecond (hg : Grouped field interval documents found)
    (valueOf : List Document → α) (second : Int) :
    Keyed.get? second (Operation.bySecond valueOf found)
      = if atSecond field interval documents second = [] then none
        else some (valueOf (atSecond field interval documents second)) := by
  have hsorted := hg.sorted_bySecond valueOf
  split
  · next hnone =>
    cases hget : Keyed.get? second (Operation.bySecond valueOf found) with
    | none => rfl
    | some value =>
      obtain ⟨_, document, hdocument, start, hstart, hsecond⟩ :=
        hg.mem_bySecond (Keyed.mem_of_get? hget)
      have hmem : document ∈ atSecond field interval documents second :=
        List.mem_filter.mpr ⟨hdocument, by simp [hstart, hsecond]⟩
      rw [hnone] at hmem
      cases hmem
  · next hsome =>
    obtain ⟨document, hdocument⟩ := List.exists_mem_of_ne_nil _ hsome
    obtain ⟨hdocument, hmap⟩ := List.mem_filter.mp hdocument
    obtain ⟨start, hstart, hsecond⟩ := Option.map_eq_some_iff.mp (of_decide_eq_true hmap)
    have hnano := nano_of_startOf hstart
    obtain ⟨group, hgroup⟩ := hg.exists_mem hdocument hstart
    have hmem : (second, valueOf group) ∈ Operation.bySecond valueOf found := by
      refine List.mem_map.mpr ⟨(start, group), hgroup, ?_⟩
      rw [Instant.epochMillis_div hnano, hsecond]
    rw [hsorted.get?_of_mem hmem, (hg.mem_bySecond hmem).1]

/-- **What is counted for each document is counted once over all groups**, if each has a bucket. -/
theorem Grouped.sum_map (hg : Grouped field interval documents found)
    (h : ∀ document ∈ documents, (startOf field interval document).isSome)
    (weight : Document → Nat) :
    (found.map fun entry => (entry.2.map weight).sum).sum = (documents.map weight).sum := by
  have hkeys : (found.map Prod.fst).Nodup := by
    refine List.pairwise_map.mpr (hg.sorted.imp fun {a b} hlt heq => ?_)
    rw [heq, Std.ReflOrd.compare_self] at hlt
    cases hlt
  have hgroups : found.map (fun entry => (entry.2.map weight).sum)
      = (found.map Prod.fst).map fun start => ((documents.filter fun document =>
        startOf field interval document = some start).map weight).sum := by
    rw [List.map_map]
    refine List.map_congr_left fun entry hentry => ?_
    rw [(hg.of_mem hentry).1]
    rfl
  rw [hgroups]
  refine sum_groups_of_one hkeys (fun document hdocument => ?_) weight
  obtain ⟨start, hstart⟩ := Option.isSome_iff_exists.mp (h document hdocument)
  obtain ⟨group, hgroup⟩ := hg.exists_mem hdocument hstart
  refine ⟨start, List.mem_map_of_mem hgroup, fun other => ?_⟩
  rw [decide_eq_true_iff, hstart, Option.some.injEq, eq_comm]

end Histogram

/-! ## Agreement -/

/-- An instant outside leap seconds, at least a week after the beginning of the calendar. -/
structure Instant.Regular (t : Instant) : Prop where
  not_leap : t.isLeap = false
  week : minDay + 7 ≤ t.day

/-- What a histogram says of hits between two instants: how many of them have their bucket start at
each second. -/
structure Histogram.Partitions (interval : Interval) (w : Window) (hits : List Document)
    (buckets : List (Int × Nat)) : Prop where
  sorted : Keyed.Sorted buckets
  counts : ∀ second,
    let members := hits.filter fun document =>
      (interval.truncate? document.timestamp).map Instant.epochSeconds = some second
    Keyed.get? second buckets = if members = [] then none else some members.length
  sum : (buckets.map Prod.snd).sum = hits.length
  within : ∃ first last, interval.truncate? w.start = some first
    ∧ interval.truncate? w.stop = some last ∧ last.epochSeconds ≤ w.stop.epochSeconds
    ∧ ∀ bucket ∈ buckets, first.epochSeconds ≤ bucket.1 ∧ bucket.1 ≤ last.epochSeconds

namespace Instant.Regular

variable {t : Instant}

theorem truncate?_isSome (h : t.Regular) (interval : Interval) : (interval.truncate? t).isSome :=
  LogSearch.truncate?_isSome fun _ => by have := h.week; omega

theorem epochSeconds_of_truncate? (h : t.Regular) {interval : Interval} {start : Instant}
    (hstart : interval.truncate? t = some start) :
    start.epochSeconds = interval.startSecond t.epochSeconds :=
  (Interval.truncate?_eq_some hstart).2 fun _ => h.not_leap

end Instant.Regular

namespace Histogram

variable {interval : Interval} {hits : List Document} {found : Groups} {w : Window}

theorem isSome_startOf (hregular : ∀ document ∈ hits, document.timestamp.Regular)
    (interval : Interval) :
    ∀ document ∈ hits, (startOf "timestamp" interval document).isSome := by
  intro document hdocument
  rw [startOf_timestamp]
  exact (hregular document hdocument).truncate?_isSome interval

theorem exists_grouped (hregular : ∀ document ∈ hits, document.timestamp.Regular)
    (interval : Interval) :
    ∃ found, groups "timestamp" interval hits = .ok found
      ∧ Grouped "timestamp" interval hits found :=
  groups_grouped fun document hdocument =>
    placed_timestamp ((hregular document hdocument).truncate?_isSome interval)

/-- All hits are counted. -/
theorem Grouped.sum_counts (hg : Grouped "timestamp" interval hits found)
    (hregular : ∀ document ∈ hits, document.timestamp.Regular) :
    ((Operation.bySecond List.length found).map Prod.snd).sum = hits.length := by
  have hsum := hg.sum_map (isSome_startOf hregular interval) fun _ => 1
  simp only [List.map_const', List.sum_replicate, smul_eq_mul, mul_one] at hsum
  rw [Operation.bySecond, List.map_map, ← hsum]
  rfl

theorem Grouped.partitions (hg : Grouped "timestamp" interval hits found) (hstart : w.start.Regular)
    (hstop : w.stop.Regular) (hregular : ∀ document ∈ hits, document.timestamp.Regular)
    (hcovers : ∀ document ∈ hits, w.wholeMillis.covers document.timestamp = true) :
    Partitions interval w hits (Operation.bySecond List.length found) := by
  refine ⟨hg.sorted_bySecond _, fun second => ?_, ?_, ?_⟩
  · intro members
    have hmembers : atSecond "timestamp" interval hits second = members :=
      List.filter_congr fun document _ => by rw [startOf_timestamp]
    rw [hg.get?_bySecond, hmembers]
  · exact hg.sum_counts hregular
  · obtain ⟨first, hfirst⟩ := Option.isSome_iff_exists.mp (hstart.truncate?_isSome interval)
    obtain ⟨last, hlast⟩ := Option.isSome_iff_exists.mp (hstop.truncate?_isSome interval)
    refine ⟨first, last, hfirst, hlast, ?_, fun bucket hbucket => ?_⟩
    · rw [hstop.epochSeconds_of_truncate? hlast]
      exact interval.startSecond_le _
    · obtain ⟨_, document, hdocument, own, hown, hsecond⟩ := hg.mem_bySecond hbucket
      rw [startOf_timestamp] at hown
      have hwithin := hcovers document hdocument
      rw [Window.covers_iff] at hwithin
      -- cutting the window to milliseconds keeps the seconds of its ends
      have hafter : w.start.epochSeconds ≤ document.timestamp.epochSeconds := by
        have := Instant.epochSeconds_mono hwithin.1
        exact this
      have hbefore : document.timestamp.epochSeconds ≤ w.stop.epochSeconds := by
        have := Instant.epochSeconds_mono hwithin.2
        exact this
      rw [← hsecond, (hregular document hdocument).epochSeconds_of_truncate? hown,
        hstart.epochSeconds_of_truncate? hfirst, hstop.epochSeconds_of_truncate? hlast]
      exact ⟨interval.startSecond_mono hafter, interval.startSecond_mono hbefore⟩

/-- The columns of a histogram of a field belong to its buckets, and their counts make up that of
all hits. -/
theorem Grouped.columns (hg : Grouped "timestamp" interval hits found)
    (hregular : ∀ document ∈ hits, document.timestamp.Regular) (field : String) (full : Bool) :
    let columns := Operation.bySecond (Operation.statsOf field full) found
    columns.map (fun bucket => (bucket.1, bucket.2.documents))
        = Operation.bySecond List.length found
      ∧ (full = true → (∀ bucket ∈ columns, bucket.2.count.isSome)
        ∧ (columns.map fun bucket => bucket.2.count.getD 0).sum
          = (Metric.moments field hits).count) := by
  intro columns
  refine ⟨?_, ?_⟩
  · simp only [columns, Operation.bySecond, List.map_map]
    rfl
  · rintro rfl
    constructor
    · intro bucket hbucket
      obtain ⟨group, _, rfl⟩ := List.mem_map.mp hbucket
      rfl
    · rw [Metric.count_moments, ← hg.sum_map (isSome_startOf hregular interval)]
      simp only [columns, Operation.bySecond, List.map_map, ← Metric.count_moments]
      rfl

end Histogram

namespace Searcher

/-- **Histograms partition the hits**, and agree with the other operations on how many there are.
The most frequent values are the one operation that may give nothing: if there is no end to the
sorting of their buckets. Keys that agree are sorted. -/
theorem histogram_partitions (searcher : Searcher) (store : Store) (now : Instant)
    (scope : SearchScope) (start stop : Instant) (q f : Clause) (interval : Interval)
    (field : String) (size : Nat) (direction : Direction)
    (hrange : scope.range = .absolute start stop)
    (hquery : Query.parse scope.query = .ok q)
    (hfilter : Query.parse (scope.filter.getD "*") = .ok f)
    (hstart : start.Regular) (hstop : stop.Regular)
    (hdocuments : ∀ index, ∀ document ∈ store.documents index, document.timestamp.Regular) :
    match searcher.plan now scope none with
    | .error failure => ∀ (α : Type) (operation : Operation α),
      (searcher.run store.backend now scope operation).result = .error failure.error
    | .ok plan =>
      let hits := store.hits plan.request.indices (q.selects f plan.window.wholeMillis)
      let terms := (searcher.run store.backend now scope (.terms field size direction)).result
      let buckets := Operation.termBuckets field hits
      ∃ count histogram stats,
        (searcher.run store.backend now scope .count).result = .ok count
        ∧ (searcher.run store.backend now scope (.histogram interval)).result = .ok histogram
        ∧ (searcher.run store.backend now scope (.fieldStats field)).result = .ok stats
        ∧ Histogram.Partitions interval ⟨start, stop⟩ hits histogram.result.buckets
        ∧ (histogram.result.buckets.map Prod.snd).sum = count.result.count
        ∧ stats.result.hits = count.result.count
        ∧ (match store.sorter.sort? (Operation.byCount direction) buckets with
          | none => terms = .error (.backend .unsorted)
          | some _ => ∃ listed, terms = .ok listed ∧ listed.result.total = count.result.count)
        ∧ (TermBucket.Agree buckets →
          ∃ sorted, store.sorter.sort? (Operation.byCount direction) buckets = some sorted)
        ∧ ∀ full, ∃ columns,
          (searcher.run store.backend now scope (.fieldHistogram field interval full)).result
            = .ok columns
          ∧ columns.result.buckets.map (fun bucket => (bucket.1, bucket.2.documents))
            = histogram.result.buckets
          ∧ (full = true → (∀ bucket ∈ columns.result.buckets, bucket.2.count.isSome)
            ∧ (columns.result.buckets.map fun bucket => bucket.2.count.getD 0).sum
              = stats.result.count) := by
  split
  · next failure hplan =>
    exact fun α operation => run_of_plan_error hplan store.backend operation
  · next plan hplan =>
    intro hits terms buckets
    have hregular : ∀ document ∈ hits, document.timestamp.Regular := fun document hdocument => by
      obtain ⟨⟨index, hmem⟩, _⟩ := Store.of_mem_hits hdocument
      exact hdocuments index document hmem
    have hcovers : ∀ document ∈ hits,
        (⟨start, stop⟩ : Window).wholeMillis.covers document.timestamp = true := by
      intro document hdocument
      obtain ⟨_, hselects⟩ := Store.of_mem_hits hdocument
      rw [window_of_plan hplan hrange] at hselects
      simp only [Clause.selects, Bool.and_eq_true] at hselects
      exact hselects.1.2
    obtain ⟨found, hfound, hg⟩ := Histogram.exists_grouped hregular interval
    obtain ⟨count, hcount, hcountResult⟩ := exists_run_eq_ok store hplan hquery hfilter
      rfl (Operation.onHits_count _ plan.window hits)
    obtain ⟨histogram, hhistogram, hhistogramResult⟩ := exists_run_eq_ok store
      hplan hquery hfilter (Operation.read_histogram_none _ interval plan.window)
      (by rw [Operation.onHits_histogram, hfound]; rfl)
    obtain ⟨stats, hstats, hstatsResult⟩ := exists_run_eq_ok store hplan hquery hfilter
      (Operation.read_fieldStats_none _ field plan.window)
      (Operation.onHits_fieldStats _ field plan.window hits)
    refine ⟨count, histogram, stats, hcount, hhistogram, hstats, ?_⟩
    have hbuckets : histogram.result.buckets = Operation.bySecond List.length found := by
      rw [hhistogramResult]
      exact (hg.sorted_bySecond _).ofList_eq
    have hpartitions := hg.partitions (w := ⟨start, stop⟩) hstart hstop hregular hcovers
    rw [hcountResult, hbuckets, hstatsResult]
    refine ⟨hpartitions, hpartitions.sum, rfl, ?_,
      Operation.exists_sort?_of_agree store.sorter direction, fun full => ?_⟩
    · refine run_terms_cases store hplan hquery hfilter field size direction ?_
      intro _ listed _ _ hresult
      rw [hresult]
      rfl
    obtain ⟨columns, hcolumns, hcolumnsResult⟩ := exists_run_eq_ok store
      hplan hquery hfilter (Operation.read_fieldHistogram_none _ field interval full plan.window)
      (by rw [Operation.onHits_fieldHistogram, hfound]; rfl)
    have hcolumnsBuckets : columns.result.buckets
        = Operation.bySecond (Operation.statsOf field full) found := by
      rw [hcolumnsResult]
      exact (hg.sorted_bySecond _).ofList_eq
    refine ⟨columns, hcolumns, ?_⟩
    rw [hcolumnsBuckets]
    exact hg.columns hregular field full

/-- Two documents on both sides of the epoch, one of them with two numbers. -/
theorem histogram_partitions_epoch :
    let early : Instant :=
      ⟨-1, 86399, 0, by decide, by decide, by decide, by decide, by decide⟩
    let store : Store := ⟨[("a_0", [⟨early, [("n", .arr [.int 1, .int 2])]⟩,
      ⟨.epoch, [("n", .int 3)]⟩])], [], .insertion 20⟩
    let searcher : Searcher :=
      ⟨⟨(⟨[]⟩ : RangeTable).lookup, lookupStream [], fun _ _ => .error .calendarEnd⟩, true⟩
    let scope : SearchScope := ⟨"*", none, .absolute early .epoch, .pattern "a_0"⟩
    ∃ histogram listed,
      (searcher.run store.backend .epoch scope (.histogram .week)).result = .ok histogram
      ∧ (searcher.run store.backend .epoch scope (.terms "n" 10 .desc)).result = .ok listed
      ∧ Histogram.Partitions .week ⟨early, .epoch⟩ (store.documents "a_0") histogram.result.buckets
      ∧ (histogram.result.buckets.map Prod.snd).sum = listed.result.total := by
  intro early store searcher scope
  have hquery : Query.parse "*" = .ok (.term .all) := rfl
  have hplan : searcher.plan .epoch scope none
      = .ok ⟨⟨early, .epoch⟩, ["a_0"], searcher.body scope ⟨early, .epoch⟩ none⟩ := by cbv
  have hhits : store.hits ["a_0"] ((Clause.term .all).selects (.term .all)
      (⟨early, .epoch⟩ : Window).wholeMillis) = store.documents "a_0" := by cbv
  have hearly : early.Regular := ⟨rfl, by decide⟩
  have hepoch : Instant.epoch.Regular := ⟨rfl, by decide⟩
  have hpartitions := histogram_partitions searcher store .epoch scope early .epoch (.term .all)
    (.term .all) .week "n" 10 .desc rfl hquery hquery hearly hepoch (by
      intro index document hdocument
      obtain ⟨documents, hstored, hdocument⟩ := Store.exists_mem_of_mem_documents hdocument
      simp only [store, List.mem_singleton, Prod.mk.injEq] at hstored
      obtain ⟨-, rfl⟩ := hstored
      rcases List.mem_cons.mp hdocument with rfl | hdocument
      · exact hearly
      · rw [List.mem_singleton.mp hdocument]
        exact hepoch)
  rw [hplan] at hpartitions
  simp only [hhits] at hpartitions
  obtain ⟨_, histogram, _, _, hhistogram, _, hpartition, hsum, _, hterms, hsorts, _⟩ := hpartitions
  obtain ⟨sorted, hsort⟩ := hsorts (by unfold TermBucket.Agree; decide +kernel)
  rw [hsort] at hterms
  obtain ⟨listed, hlisted, htotal⟩ := hterms
  exact ⟨histogram, listed, hhistogram, hlisted, hpartition, hsum.trans htotal.symm⟩

/-- Of five numbers and sixteen texts that lie between them twenty-one are counted and none are
listed. -/
theorem histogram_partitions_fails :
    let searcher : Searcher :=
      ⟨⟨(⟨[]⟩ : RangeTable).lookup, lookupStream [], fun _ _ => .error .calendarEnd⟩, true⟩
    let scope : SearchScope := ⟨"*", none, .absolute .epoch .epoch, .pattern "a_0"⟩
    (∀ document ∈ crossed, document.timestamp.Regular)
      ∧ (∃ count, (searcher.run Store.crossed.backend .epoch scope .count).result = .ok count
        ∧ count.result.count = 21)
      ∧ (searcher.run Store.crossed.backend .epoch scope (.terms "n" 21 .desc)).result
        = .error (.backend .unsorted) := by
  intro searcher scope
  have hquery : Query.parse "*" = .ok (.term .all) := rfl
  have hregular : ∀ document ∈ crossed, document.timestamp.Regular := by
    intro document hdocument
    obtain ⟨value, _, rfl⟩ := List.mem_map.mp hdocument
    exact (⟨rfl, by decide⟩ : Instant.epoch.Regular)
  have hw : searcher.resolver.window .epoch scope.range = .ok ⟨.epoch, .epoch⟩ :=
    window_of_le searcher .epoch rfl (by decide)
  have hn : searcher.indices scope ⟨.epoch, .epoch⟩ = .ok ["a_0"] := by cbv
  have hcount : (searcher.run Store.crossed.backend .epoch scope .count).result = _ :=
    run_count scope hw hn hquery hquery
  refine ⟨hregular, ⟨_, hcount, ?_⟩, run_terms_crossed searcher 21⟩
  rw [Store.hits_crossed]
  decide +kernel

end Searcher

end LogSearch
