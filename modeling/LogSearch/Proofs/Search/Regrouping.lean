import Mathlib
import LogSearch.Proofs.Search.Histogram
import LogSearch.Proofs.Time.Nesting

/-!
# Coarser histograms from finer ones

The keys of a histogram are the starts of its buckets. To get a coarser histogram from a finer one
the documents are not needed: each count goes to the coarser bucket that its key lies in, and counts
that go to the same one are added up (`Histogram.regroup`).

What stands under a key of such sums is known from the pairs that were added up (`Keyed.get?_sums`).
For those of a histogram it is a number of documents: documents of one finer bucket lie in the same
coarser one, so each is counted under its own coarser start and nowhere else
(`Histogram.Grouped.total_counts`).

Main statement: regrouping the histogram of an interval gives the histogram of any interval whose
buckets are made of its own (`regroup_histogram`).
-/

namespace LogSearch

/-! ## Sums by key -/

namespace Keyed

variable {κ : Type} [Ord κ]

/-- Numbers added up under their keys. -/
def sums (pairs : List (κ × Nat)) : List (κ × Nat) :=
  pairs.foldl (fun found (key, n) => update key 0 (· + n) found) []

/-- What pairs hold under a key, all together. -/
def total [DecidableEq κ] (key : κ) (pairs : List (κ × Nat)) : Nat :=
  (pairs.map fun pair => if pair.1 = key then pair.2 else 0).sum

theorem sums_concat (pairs : List (κ × Nat)) (key : κ) (n : Nat) :
    sums (pairs ++ [(key, n)]) = update key 0 (· + n) (sums pairs) :=
  List.foldl_concat ..

variable [Std.LawfulEqOrd κ]

theorem sorted_sums [Std.TransOrd κ] (pairs : List (κ × Nat)) : Sorted (sums pairs) := by
  induction pairs using List.reverseRecOn with
  | nil => exact List.Pairwise.nil
  | append_singleton pairs pair ih =>
    rw [sums_concat]
    exact ih.insert _ _

/-- **What is found among the sums**, if no pair counts nothing. By induction on the pairs from the
last one, which is added last. -/
theorem get?_sums [DecidableEq κ] {pairs : List (κ × Nat)} (h : ∀ pair ∈ pairs, 0 < pair.2)
    (key : κ) :
    get? key (sums pairs) = if total key pairs = 0 then none else some (total key pairs) := by
  induction pairs using List.reverseRecOn with
  | nil => rfl
  | append_singleton pairs pair ih =>
    obtain ⟨own, n⟩ := pair
    have hbefore := ih fun pair hpair => h pair (List.mem_append_left _ hpair)
    have hn : 0 < n := h (own, n) (List.mem_append_right _ List.mem_cons_self)
    have htotal : total key (pairs ++ [(own, n)])
        = total key pairs + if own = key then n else 0 := by simp [total]
    rw [sums_concat, htotal]
    by_cases hkey : own = key
    · subst hkey
      have hsum : (get? own (sums pairs)).getD 0 = total own pairs := by
        rw [hbefore]
        split
        · next hzero => exact hzero.symm
        · rfl
      rw [get?_update_self, hsum, if_pos rfl, if_neg (by omega)]
    · rw [get?_update_of_ne (Ne.symm hkey), hbefore, if_neg hkey, Nat.add_zero]

end Keyed

/-! ## Regrouping -/

namespace Instant.Regular

variable {t : Instant}

theorem map_truncate? (h : t.Regular) (interval : Interval) :
    (interval.truncate? t).map Instant.epochSeconds
      = some (interval.startSecond t.epochSeconds) := by
  obtain ⟨start, hstart⟩ := Option.isSome_iff_exists.mp (h.truncate?_isSome interval)
  rw [hstart, Option.map_some, h.epochSeconds_of_truncate? hstart]

/-- No bucket around such an instant starts before the calendar. -/
theorem minDay_le_startDay (h : t.Regular) (interval : Interval) :
    minDay ≤ interval.startDay t.day := by
  obtain ⟨start, hstart⟩ := Option.isSome_iff_exists.mp (h.truncate?_isSome interval)
  have hsecond := h.epochSeconds_of_truncate? hstart
  rw [← Instant.epochSeconds_div t, ← Interval.startSecond_div, ← hsecond,
    Instant.epochSeconds_div]
  exact start.day_ge

end Instant.Regular

namespace Histogram

variable {fine coarse interval : Interval} {hits : List Document} {found regrouped : Groups}

/-- The counts of the coarser buckets that the keys of some counts lie in; `none` if a key lies in
none. -/
def regroup (interval : Interval) (counts : List (Int × Nat)) : Option (List (Int × Nat)) :=
  (counts.mapM fun count => (interval.bucketOf? count.1).map fun start => (start, count.2)).map
    Keyed.sums

/-- The counts of a histogram, each under the start of the coarser bucket. -/
def coarserCounts (interval : Interval) (found : Groups) : List (Int × Nat) :=
  (Operation.bySecond List.length found).map fun count => (interval.startSecond count.1, count.2)

/-- The members of a group lie in the coarser bucket of its start. -/
theorem Grouped.startSecond_of_mem (hg : Grouped "timestamp" fine hits found)
    (hregular : ∀ document ∈ hits, document.timestamp.Regular) (h : fine.Finer coarse)
    {start : Instant} {group : List Document} (hgroup : (start, group) ∈ found)
    {document : Document} (hdocument : document ∈ group) :
    coarse.startSecond start.epochSeconds
      = coarse.startSecond document.timestamp.epochSeconds := by
  rw [(hg.of_mem hgroup).1, members, List.mem_filter, decide_eq_true_iff,
    startOf_timestamp] at hdocument
  rw [(hregular document hdocument.1).epochSeconds_of_truncate? hdocument.2,
    h.startSecond_startSecond]

/-- **What stands under a coarser start is the number of documents whose coarser bucket starts
there.** -/
theorem Grouped.total_counts (hg : Grouped "timestamp" fine hits found)
    (hregular : ∀ document ∈ hits, document.timestamp.Regular) (h : fine.Finer coarse)
    (second : Int) :
    Keyed.total second (coarserCounts coarse found)
      = (atSecond "timestamp" coarse hits second).length := by
  let lies (document : Document) : Bool :=
    coarse.startSecond document.timestamp.epochSeconds = second
  have hgroups : ∀ entry ∈ found,
      (if coarse.startSecond (entry.1.epochMillis / 1000) = second then entry.2.length else 0)
        = (entry.2.map fun document => if lies document then 1 else 0).sum := by
    rintro ⟨start, group⟩ hgroup
    have hsame : group.countP lies
        = group.countP fun _ => coarse.startSecond start.epochSeconds = second := by
      refine List.countP_congr fun document hdocument => ?_
      rw [hg.startSecond_of_mem hregular h hgroup hdocument]
    rw [Instant.epochMillis_div (hg.nano_of_mem hgroup), sum_map_ite, Nat.one_mul, hsame]
    split
    · next heq => simp [heq]
    · next hne => simp [hne]
  have hlies : atSecond "timestamp" coarse hits second = hits.filter lies := by
    refine List.filter_congr fun document hdocument => ?_
    rw [decide_eq_decide, startOf_timestamp, (hregular document hdocument).map_truncate? coarse,
      Option.some.injEq]
  calc Keyed.total second (coarserCounts coarse found)
      = (found.map fun entry => if coarse.startSecond (entry.1.epochMillis / 1000) = second
          then entry.2.length else 0).sum := by
        simp only [Keyed.total, coarserCounts, Operation.bySecond, List.map_map]
        rfl
    _ = (found.map fun entry =>
          (entry.2.map fun document => if lies document then 1 else 0).sum).sum := by
        rw [List.map_congr_left hgroups]
    _ = (hits.map fun document => if lies document then 1 else 0).sum :=
        hg.sum_map (isSome_startOf hregular fine) _
    _ = (atSecond "timestamp" coarse hits second).length := by
        rw [sum_map_ite, Nat.one_mul, List.countP_eq_length_filter, hlies]

/-- **The counts of finer groups make up those of coarser ones.** -/
theorem Grouped.regroup_eq (hg : Grouped "timestamp" fine hits found)
    (hc : Grouped "timestamp" coarse hits regrouped)
    (hregular : ∀ document ∈ hits, document.timestamp.Regular) (h : fine.Finer coarse) :
    regroup coarse (Operation.bySecond List.length found)
      = some (Operation.bySecond List.length regrouped) := by
  have hkeys : ∀ count ∈ Operation.bySecond List.length found,
      ((coarse.bucketOf? count.1).map fun start => (start, count.2))
        = pure (coarse.startSecond count.1, count.2) := by
    rintro ⟨second, n⟩ hcount
    obtain ⟨_, document, hdocument, start, hstart, rfl⟩ := hg.mem_bySecond hcount
    rw [startOf_timestamp] at hstart
    have ht := hregular document hdocument
    rw [h.bucketOf?_start ht.not_leap hstart (ht.minDay_le_startDay coarse)]
    rfl
  have hpositive : ∀ count ∈ coarserCounts coarse found, 0 < count.2 := by
    intro count hcount
    obtain ⟨_, hfine, rfl⟩ := List.mem_map.mp hcount
    obtain ⟨⟨start, group⟩, hgroup, rfl⟩ := List.mem_map.mp hfine
    exact List.length_pos_iff.mpr (hg.nonempty start group (hg.sorted.get?_of_mem hgroup))
  rw [regroup, mapM_eq_pure hkeys]
  refine congrArg some ?_
  refine (Keyed.sorted_sums _).ext (hc.sorted_bySecond _) fun second => ?_
  have hsums := Keyed.get?_sums hpositive second
  simp only [hg.total_counts hregular h second, List.length_eq_zero_iff] at hsums
  exact hsums.trans (hc.get?_bySecond List.length second).symm

end Histogram

/-! ## Searches -/

namespace Searcher

/-- **A coarser histogram is a finer one regrouped**, and counts all hits. Where there is no plan for
a scope, every histogram of it fails alike. -/
theorem regroup_histogram (searcher : Searcher) (store : Store) (now : Instant)
    (scope : SearchScope) (q f : Clause) {fine coarse : Interval} (h : fine.Finer coarse)
    (hquery : Query.parse scope.query = .ok q)
    (hfilter : Query.parse (scope.filter.getD "*") = .ok f)
    (hdocuments : ∀ index, ∀ document ∈ store.documents index, document.timestamp.Regular) :
    match searcher.plan now scope none with
    | .error failure => ∀ interval,
      (searcher.run store.backend now scope (.histogram interval)).result = .error failure.error
    | .ok plan => ∃ finer coarser,
      (searcher.run store.backend now scope (.histogram fine)).result = .ok finer
      ∧ (searcher.run store.backend now scope (.histogram coarse)).result = .ok coarser
      ∧ Histogram.regroup coarse finer.result.buckets = some coarser.result.buckets
      ∧ (coarser.result.buckets.map Prod.snd).sum
        = (store.hits plan.request.indices (q.selects f plan.window.wholeMillis)).length := by
  split
  · next failure hplan =>
    exact fun interval => run_of_plan_error hplan store.backend (.histogram interval)
  · next plan hplan =>
    let hits := store.hits plan.request.indices (q.selects f plan.window.wholeMillis)
    have hregular : ∀ document ∈ hits, document.timestamp.Regular := fun document hdocument => by
      obtain ⟨⟨index, hmem⟩, _⟩ := Store.of_mem_hits hdocument
      exact hdocuments index document hmem
    have hrun : ∀ interval, ∃ found reported, Histogram.Grouped "timestamp" interval hits found
        ∧ (searcher.run store.backend now scope (.histogram interval)).result = .ok reported
        ∧ reported.result.buckets = Operation.bySecond List.length found := by
      intro interval
      obtain ⟨found, hfound, hg⟩ := Histogram.exists_grouped hregular interval
      obtain ⟨reported, hreported, hresult⟩ := exists_run_eq_ok store hplan hquery hfilter
        (Operation.read_histogram_none store.sorter interval plan.window)
        (by rw [Operation.onHits_histogram, hfound]; rfl)
      refine ⟨found, reported, hg, hreported, ?_⟩
      rw [hresult]
      exact (hg.sorted_bySecond List.length).ofList_eq
    obtain ⟨found, finer, hg, hfiner, hbuckets⟩ := hrun fine
    obtain ⟨regrouped, coarser, hc, hcoarser, hregrouped⟩ := hrun coarse
    refine ⟨finer, coarser, hfiner, hcoarser, ?_, ?_⟩
    · rw [hbuckets, hregrouped]
      exact hg.regroup_eq hc hregular h
    · rw [hregrouped]
      exact hc.sum_counts hregular

/-- Two days of one week, on both sides of the epoch and of the turn of a year. -/
theorem regroup_histogram_epoch :
    let early : Instant :=
      ⟨-1, 86399, 0, by decide, by decide, by decide, by decide, by decide⟩
    let store : Store := ⟨[("a_0", [⟨early, []⟩, ⟨.epoch, []⟩, ⟨.epoch, []⟩])], [], .insertion 20⟩
    let searcher : Searcher :=
      ⟨⟨(⟨[]⟩ : RangeTable).lookup, lookupStream [], fun _ _ => .error .calendarEnd⟩, true⟩
    let scope : SearchScope := ⟨"*", none, .absolute early .epoch, .pattern "a_0"⟩
    ∃ minutes weeks years,
      (searcher.run store.backend .epoch scope (.histogram .minute)).result = .ok minutes
      ∧ (searcher.run store.backend .epoch scope (.histogram .week)).result = .ok weeks
      ∧ (searcher.run store.backend .epoch scope (.histogram .year)).result = .ok years
      ∧ Histogram.regroup .week minutes.result.buckets = some weeks.result.buckets
      ∧ Histogram.regroup .year minutes.result.buckets = some years.result.buckets
      ∧ minutes.result.buckets = [(-60, 1), (0, 2)]
      ∧ weeks.result.buckets = [(-259200, 3)]
      ∧ years.result.buckets = [(-31536000, 1), (0, 2)] := by
  intro early store searcher scope
  have hquery : Query.parse "*" = .ok (.term .all) := rfl
  have hplan : searcher.plan .epoch scope none
      = .ok ⟨⟨early, .epoch⟩, ["a_0"], searcher.body scope ⟨early, .epoch⟩ none⟩ := by cbv
  have hdocuments : ∀ index, ∀ document ∈ store.documents index, document.timestamp.Regular := by
    intro index document hdocument
    obtain ⟨documents, hstored, hdocument⟩ := Store.exists_mem_of_mem_documents hdocument
    simp only [store, List.mem_singleton, Prod.mk.injEq] at hstored
    obtain ⟨-, rfl⟩ := hstored
    simp only [List.mem_cons, List.not_mem_nil, or_false, or_self] at hdocument
    rcases hdocument with rfl | rfl
    · exact ⟨rfl, by decide⟩
    · exact ⟨rfl, by decide⟩
  have hweek := regroup_histogram searcher store .epoch scope (.term .all) (.term .all)
    ((Interval.Finer.minute_hour.trans .hour_day).trans .day_week) hquery hquery hdocuments
  have hyear := regroup_histogram searcher store .epoch scope (.term .all) (.term .all)
    ((((Interval.Finer.minute_hour.trans .hour_day).trans .day_month).trans .month_quarter).trans
      .quarter_year) hquery hquery hdocuments
  rw [hplan] at hweek hyear
  obtain ⟨minutes, weeks, hminutes, hweeks, hweek, _⟩ := hweek
  obtain ⟨again, years, hagain, hyears, hyear, _⟩ := hyear
  obtain rfl := Except.ok.inj (hminutes.symm.trans hagain)
  -- what the documents are counted to in each minute
  obtain ⟨hwindow, hnames⟩ := plan_eq_ok hplan
  have hfilter : Query.parse (scope.filter.getD "*") = .ok (.term .all) := hquery
  have hrun : (searcher.run store.backend .epoch scope (.histogram .minute)).result = _ :=
    run_histogram scope hwindow hnames hquery hfilter .minute
  have hcounts : (Histogram.groups "timestamp" .minute (store.hits ["a_0"]
      ((Clause.term .all).selects (.term .all) (⟨early, .epoch⟩ : Window).wholeMillis))).map
        Histogram.tally = .ok [(early.startOfMinute, 1), (.epoch, 2)] := by cbv
  rw [hcounts, hminutes] at hrun
  have hbuckets : minutes.result.buckets = [(-60, 1), (0, 2)] := by
    rw [Except.ok.inj hrun]
    decide +kernel
  rw [hbuckets] at hweek hyear
  have hw : Histogram.regroup .week [(-60, 1), (0, 2)] = some [(-259200, 3)] := by decide +kernel
  have hy : Histogram.regroup .year [(-60, 1), (0, 2)] = some [(-31536000, 1), (0, 2)] := by
    decide +kernel
  refine ⟨minutes, weeks, years, hminutes, hweeks, hyears, ?_, ?_, hbuckets, ?_, ?_⟩
  · rw [hbuckets, hweek]
  · rw [hbuckets, hyear]
  · exact Option.some.inj (hweek.symm.trans hw)
  · exact Option.some.inj (hyear.symm.trans hy)

end Searcher

end LogSearch
