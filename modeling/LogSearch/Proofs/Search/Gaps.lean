import Mathlib
import LogSearch.Proofs.Search.Histogram
import LogSearch.Proofs.Time.Steps

/-!
# Gaps between buckets

Empty buckets are put in by stepping from the first start towards the last and stopping where the
next start is not before the last (`Histogram.Steps`). The starts stepped to, with the first and the
last, follow each other without a gap (`Steps.chain`) and all groups are among them, so what is
filled up has a bucket for each start from the first to the last (`Grouped.exists_filled`).

Main statement: filling gaps ends, gives buckets that follow each other, and changes nothing else
(`run_filled`).
-/

namespace LogSearch

/-! ## Look-ups -/

/-- A value for each of some keys. -/
theorem Keyed.get?_graph {κ α : Type} [Ord κ] [Std.LawfulEqOrd κ] [DecidableEq κ] (f : κ → α)
    (keys : List κ) (key : κ) :
    get? key (keys.map fun k => (k, f k)) = if key ∈ keys then some (f key) else none := by
  induction keys with
  | nil => rfl
  | cons first keys ih =>
    rw [List.map_cons]
    by_cases h : key = first
    · rw [h, get?_cons_self, if_pos List.mem_cons_self]
    · rw [get?_cons_of_ne h, ih]
      simp [h]

namespace Histogram

variable {field : String} {interval : Interval} {documents : List Document}
  {found groups : Groups} {first last : Instant} {starts : List Instant}

/-! ## The loop -/

/-- The starts that stepping from a cursor puts in, until the next is not before the last. -/
inductive Steps (interval : Interval) (last : Instant) : Instant → List Instant → Prop where
  | stop {cursor : Instant} (h : ∀ next, interval.next? cursor = some next → ¬next < last) :
    Steps interval last cursor []
  | step {cursor next : Instant} {rest : List Instant} (h : interval.next? cursor = some next)
    (hlt : next < last) (hrest : Steps interval last next rest) :
    Steps interval last cursor (next :: rest)

/-- **Stepping ends**: it takes no more steps than there are minutes. By induction on these. -/
theorem steps_startsAfter {count : Nat} (hfirst : interval.IsStart first) (hle : first ≤ last)
    (hcount : (last.epochSeconds - first.epochSeconds) / 60 < count) :
    Steps interval last first (startsAfter interval last count first) := by
  induction count generalizing first with
  | zero =>
    have := Instant.epochSeconds_mono hle
    omega
  | succ count ih =>
    rw [startsAfter]
    cases hnext : interval.next? first with
    | none => exact .stop fun next h => by cases hnext.symm.trans h
    | some next =>
      by_cases hlt : next < last
      · simp only [if_pos hlt]
        have hminute := (hfirst.lt_next hnext).2
        exact .step hnext hlt (ih (hfirst.of_next? hnext).1 (Instant.le_of_lt hlt) (by omega))
      · simp only [if_neg hlt]
        exact .stop fun other hother => Option.some.inj (hnext.symm.trans hother) ▸ hlt

theorem steps_startsBetween (hfirst : interval.IsStart first) (hle : first ≤ last) :
    Steps interval last first (startsBetween interval first last) := by
  have := Instant.epochSeconds_mono hle
  exact steps_startsAfter hfirst hle (by omega)

/-- **What is stepped to leads from the first start to the last without a gap.** -/
theorem Steps.chain (h : Steps interval last first starts) (hfirst : interval.IsStart first)
    (hlast : interval.IsStart last) (hlt : first < last) :
    interval.Chain (first :: (starts ++ [last])) := by
  induction h with
  | stop hstop =>
    -- the next start is neither before the last nor behind it
    obtain ⟨next, hnext, hle⟩ := hfirst.exists_next? hlast hlt
    have hsame := Instant.le_antisymm hle (Instant.not_lt_iff.mp (hstop next hnext))
    exact List.isChain_pair.mpr (hsame ▸ hnext)
  | step hnext hlt' _ ih =>
    exact List.isChain_cons_cons.mpr ⟨hnext, ih (hfirst.of_next? hnext).1 hlt'⟩

/-- From a start to itself there is nothing to step to. -/
theorem Steps.eq_nil (h : Steps interval first first starts) (hfirst : interval.IsStart first) :
    starts = [] := by
  cases h with
  | stop => rfl
  | step hnext hlt =>
    have hle := Instant.le_of_lt (hfirst.lt_next hnext).1
    exact absurd hlt (Instant.not_lt_iff.mpr hle)

/-! ## Filling up -/

theorem mem_withStarts {entry : Instant × List Document} (h : entry ∈ withStarts starts groups) :
    entry ∈ groups ∨ entry.1 ∈ starts := by
  fun_induction withStarts starts groups <;> grind

/-- The groups that are put in have no documents. -/
theorem mem_or_eq_nil_of_mem_withStarts {entry : Instant × List Document}
    (h : entry ∈ withStarts starts groups) : entry ∈ groups ∨ entry.2 = [] := by
  fun_induction withStarts starts groups <;> grind

theorem mem_or_eq_nil_of_mem_filled {entry : Instant × List Document}
    (h : entry ∈ filled interval groups) : entry ∈ groups ∨ entry.2 = [] := by
  rw [filled] at h
  split at h
  · exact mem_or_eq_nil_of_mem_withStarts h
  · exact .inl h

/-- What is filled up ascends. -/
theorem sorted_withStarts (hstarts : starts.Pairwise (· < ·)) (hsorted : Keyed.Sorted groups) :
    Keyed.Sorted (withStarts starts groups) := by
  fun_induction withStarts starts groups with
  | case1 groups => exact hsorted
  | case2 start starts ih =>
    obtain ⟨hstart, hrest⟩ := List.pairwise_cons.mp hstarts
    refine List.pairwise_cons.mpr ⟨fun entry hentry => ?_, ih hrest hsorted⟩
    rcases mem_withStarts hentry with hnone | hmem
    · cases hnone
    · exact Instant.lt_iff_compare.mp (hstart _ hmem)
  | case3 start starts t members groups hlt ih =>
    obtain ⟨hstart, hrest⟩ := List.pairwise_cons.mp hstarts
    refine List.pairwise_cons.mpr ⟨fun entry hentry => ?_, ih hrest hsorted⟩
    rcases mem_withStarts hentry with hgroup | hmem
    · rcases List.mem_cons.mp hgroup with rfl | hgroup
      · exact hlt
      · exact Std.TransCmp.lt_trans hlt ((List.pairwise_cons.mp hsorted).1 entry hgroup)
    · exact Instant.lt_iff_compare.mp (hstart _ hmem)
  | case4 start starts t members groups heq ih => exact ih (List.pairwise_cons.mp hstarts).2 hsorted
  | case5 start starts t members groups hgt ih =>
    have hlt : compare t start = .lt := Std.OrientedCmp.lt_of_gt hgt
    refine List.pairwise_cons.mpr ⟨fun entry hentry => ?_, ih hstarts hsorted.tail⟩
    rcases mem_withStarts hentry with hgroup | hmem
    · exact (List.pairwise_cons.mp hsorted).1 entry hgroup
    · rcases List.mem_cons.mp hmem with heq | hmem
      · exact heq ▸ hlt
      · exact Std.TransCmp.lt_trans hlt
          (Instant.lt_iff_compare.mp ((List.pairwise_cons.mp hstarts).1 _ hmem))

/-- **Filling up leaves the groups as they are** and puts an empty one at the other starts. -/
theorem get?_withStarts (hsorted : Keyed.Sorted groups) (key : Instant) :
    Keyed.get? key (withStarts starts groups)
      = (Keyed.get? key groups).or (if key ∈ starts then some [] else none) := by
  fun_induction withStarts starts groups with
  | case1 groups => simp
  | case2 start starts ih =>
    by_cases h : key = start
    · rw [h, Keyed.get?_cons_self, if_pos List.mem_cons_self]
      rfl
    · rw [Keyed.get?_cons_of_ne h, ih hsorted]
      simp [h]
  | case3 start starts t members groups hlt ih =>
    by_cases h : key = start
    · rw [h, Keyed.get?_cons_self, hsorted.get?_of_lt hlt, if_pos List.mem_cons_self]
      rfl
    · rw [Keyed.get?_cons_of_ne h, ih hsorted]
      simp [h]
  | case4 start starts t members groups heq ih =>
    obtain rfl := Instant.cmp_eq_eq_iff.mp heq
    rw [ih hsorted]
    by_cases h : key = start
    · rw [h, Keyed.get?_cons_self]
      rfl
    · simp [h]
  | case5 start starts t members groups hgt ih =>
    by_cases h : key = t
    · rw [h, Keyed.get?_cons_self, Keyed.get?_cons_self]
      rfl
    · rw [Keyed.get?_cons_of_ne h, Keyed.get?_cons_of_ne h, ih hsorted.tail]

/-- What does not hold of an empty group is not changed by filling up. -/
theorem filter_withStarts {p : Instant × List Document → Bool} (h : ∀ start, p (start, []) = false)
    (starts : List Instant) (groups : Groups) :
    (withStarts starts groups).filter p = groups.filter p := by
  fun_induction withStarts starts groups <;> simp_all [List.filter_cons]

theorem sum_withStarts (starts : List Instant) (groups : Groups) :
    ((withStarts starts groups).map fun entry => entry.2.length).sum
      = (groups.map fun entry => entry.2.length).sum := by
  fun_induction withStarts starts groups <;> simp_all

theorem filter_filled {p : Instant × List Document → Bool} (h : ∀ start, p (start, []) = false)
    (groups : Groups) : (filled interval groups).filter p = groups.filter p := by
  rw [filled]
  split
  · exact filter_withStarts h _ groups
  · rfl

theorem sum_filled (interval : Interval) (groups : Groups) :
    ((filled interval groups).map fun entry => entry.2.length).sum
      = (groups.map fun entry => entry.2.length).sum := by
  rw [filled]
  split
  · exact sum_withStarts _ groups
  · rfl

/-! ## Starts without a gap -/

/-- What is stepped to, with both ends, leads from the first start to the last without a gap. -/
theorem Steps.exists_chain (h : Steps interval last first starts) (hfirst : interval.IsStart first)
    (hlast : interval.IsStart last) (hle : first ≤ last) :
    ∃ rest, interval.Chain (first :: rest) ∧ (first :: rest).getLast? = some last
      ∧ starts.Sublist (first :: rest)
      ∧ ∀ start ∈ first :: rest, start ∈ starts ∨ start = first ∨ start = last := by
  by_cases heq : first = last
  · subst heq
    rw [h.eq_nil hfirst]
    exact ⟨[], List.isChain_singleton _, rfl, List.nil_sublist _, fun start hstart =>
      .inr (.inl (List.mem_singleton.mp hstart))⟩
  · have hlt := Instant.lt_of_le_of_ne hle heq
    have hend : (first :: starts ++ [last]).getLast? = some last := List.getLast?_concat
    refine ⟨starts ++ [last], h.chain hfirst hlast hlt, hend,
      (List.sublist_append_left starts [last]).cons first, fun start hstart => ?_⟩
    simp only [List.mem_cons, List.mem_append, List.not_mem_nil, or_false] at hstart
    tauto

/-- In ascending groups a start lies between those of the first and the last. -/
theorem between_of_sorted (hsorted : Keyed.Sorted groups) {entry firstEntry lastEntry :
    Instant × List Document} (hhead : groups.head? = some firstEntry)
    (hlast : groups.getLast? = some lastEntry) (hentry : entry ∈ groups) :
    firstEntry.1 ≤ entry.1 ∧ entry.1 ≤ lastEntry.1 := by
  constructor
  · obtain ⟨rest, rfl⟩ := List.head?_eq_some_iff.mp hhead
    rcases List.mem_cons.mp hentry with rfl | hrest
    · exact Instant.le_refl _
    · exact Instant.le_of_lt (Instant.lt_iff_compare.mpr
        ((List.pairwise_cons.mp hsorted).1 entry hrest))
  · obtain ⟨front, rfl⟩ := List.getLast?_eq_some_iff.mp hlast
    rcases List.mem_append.mp hentry with hfront | hend
    · exact Instant.le_of_lt (Instant.lt_iff_compare.mpr
        ((List.pairwise_append.mp hsorted).2.2 entry hfront lastEntry (List.mem_singleton_self _)))
    · rw [List.mem_singleton.mp hend]
      exact Instant.le_refl _

/-- **What is filled up has a group for each start from the first to the last**, with the documents
whose bucket starts there. -/
theorem Grouped.exists_filled (hg : Grouped field interval documents found)
    (hstarts : ∀ entry ∈ found, interval.IsStart entry.1) :
    ∃ starts : List Instant,
      filled interval found
        = starts.map (fun start => (start, members field interval documents start))
      ∧ interval.Chain starts ∧ starts.Pairwise (· < ·)
      ∧ starts.head? = found.head?.map Prod.fst
      ∧ starts.getLast? = found.getLast?.map Prod.fst := by
  cases hhead : found.head? with
  | none =>
    obtain rfl := List.head?_eq_none_iff.mp hhead
    exact ⟨[], rfl, List.isChain_nil, List.Pairwise.nil, rfl, rfl⟩
  | some firstEntry =>
    obtain ⟨lastEntry, hlast⟩ : ∃ lastEntry, found.getLast? = some lastEntry :=
      Option.isSome_iff_exists.mp (by cases found <;> simp at hhead ⊢)
    have hfirstMem := List.mem_of_head? hhead
    have hlastMem := List.mem_of_getLast? hlast
    have hfirst := hstarts _ hfirstMem
    have hle := (between_of_sorted hg.sorted hhead hlast hlastMem).1
    obtain ⟨rest, hchain, hend, hsublist, hends⟩ :=
      (steps_startsBetween hfirst hle).exists_chain hfirst (hstarts _ hlastMem) hle
    have hascending := hchain.ascending hfirst
    refine ⟨firstEntry.1 :: rest, ?_, hchain, hascending, rfl, by rw [hend, hlast]; rfl⟩
    have hfilled : filled interval found
        = withStarts (startsBetween interval firstEntry.1 lastEntry.1) found := by
      rw [filled, hhead, hlast]
    rw [hfilled]
    refine (sorted_withStarts (hascending.sublist hsublist) hg.sorted).ext
      (List.pairwise_map.mpr (hascending.imp Instant.lt_iff_compare.mp)) fun key => ?_
    rw [get?_withStarts hg.sorted, Keyed.get?_graph]
    have hmembers := hg.get? key
    cases hget : Keyed.get? key found with
    | some group =>
      -- a group starts at one of the starts, as there is no gap between them
      have hentry := Keyed.mem_of_get? hget
      obtain ⟨hafter, hbefore⟩ := between_of_sorted hg.sorted hhead hlast hentry
      have hmem := hchain.mem_of_le hfirst (hstarts _ hentry) hafter fun last h => by
        rw [Option.mem_def, hend] at h
        exact Option.some.inj h ▸ hbefore
      rw [hget, Option.getD_some] at hmembers
      rw [if_pos hmem, ← hmembers]
      rfl
    | none =>
      rw [hget, Option.getD_none] at hmembers
      have hne : ∀ entry ∈ found, key ≠ entry.1 := by
        rintro entry hentry rfl
        rw [hg.sorted.get?_of_mem hentry] at hget
        cases hget
      have hsame : key ∈ startsBetween interval firstEntry.1 lastEntry.1
          ↔ key ∈ firstEntry.1 :: rest := by
        refine ⟨fun h => hsublist.subset h, fun h => ?_⟩
        rcases hends key h with hmem | heq | heq
        · exact hmem
        · exact absurd heq (hne _ hfirstMem)
        · exact absurd heq (hne _ hlastMem)
      simp only [hsame, ← hmembers, Option.none_or]

/-! ## Results -/

/-- The result of a grouping by itself. -/
theorem run_histogram_eq (sorter : Sorter)
    (hfound : Histogram.groups field interval documents = .ok found) (least : Nat) :
    Aggregation.run sorter documents (.histogram field interval least [])
      = .ok (bucketsJson (fun _ => []) ((if least = 0 then filled interval found
          else found).filter fun entry => least ≤ entry.2.length)) := by
  rw [Aggregation.run, hfound]
  have hbuckets : ∀ entries : Groups, entries.mapM (fun entry => do
        let body ← Aggregation.runInto sorter
          [("doc_count", .nat entry.2.length), ("key", .int entry.1.epochMillis),
           ("key_as_string", .str entry.1.renderMillis)] entry.2 []
        return Json.obj body)
      = .ok (entries.map (bucketJson fun _ => [])) := fun entries =>
    mapM_eq_ok fun entry _ => by rw [Aggregation.runInto]; rfl
  simp only [ok_bind, hbuckets, bucketsJson]
  rfl

/-- Documents without a bucket are in no group. -/
theorem Grouped.filter_isSome (hg : Grouped field interval documents found) :
    Grouped field interval
      (documents.filter fun document => (startOf field interval document).isSome) found := by
  refine ⟨hg.sorted, fun start => ?_, hg.nonempty⟩
  rw [hg.get?, members, members, List.filter_filter]
  refine List.filter_congr fun document _ => ?_
  by_cases h : startOf field interval document = some start <;> simp [h]

/-- **Every document with a bucket is counted once.** -/
theorem Grouped.sum_length (hg : Grouped field interval documents found) :
    (found.map fun entry => entry.2.length).sum
      = documents.countP fun document => (startOf field interval document).isSome := by
  have hsum := hg.filter_isSome.sum_map (fun _ h => (List.mem_filter.mp h).2) fun _ => 1
  simpa [List.countP_eq_length_filter] using hsum

/-- What filling gaps makes of documents: buckets that follow each other from the first document to
the last, each with the documents that lie in it. -/
structure Complete (field : String) (interval : Interval) (documents : List Document)
    (groups : Groups) : Prop where
  ascending : (groups.map Prod.fst).Pairwise (· < ·)
  chain : interval.Chain (groups.map Prod.fst)
  first : ∀ entry ∈ groups.head?, entry.2 ≠ []
  last : ∀ entry ∈ groups.getLast?, entry.2 ≠ []
  members : ∀ entry ∈ groups, entry.2 = members field interval documents entry.1
  sum : (groups.map fun entry => entry.2.length).sum
    = documents.countP fun document => (document.time? field).isSome

section

variable (hregular : ∀ document ∈ documents, ∀ t ∈ document.time? field, t.Regular)

include hregular

theorem isStart_of_regular (hg : Grouped field interval documents found) :
    ∀ entry ∈ found, interval.IsStart entry.1 := by
  rintro ⟨start, group⟩ hentry
  obtain ⟨-, document, hdocument, hstart⟩ := hg.of_mem hentry
  obtain ⟨t, ht, htruncate⟩ := Option.bind_eq_some_iff.mp hstart
  have hmisses : ¬interval.Misses t := fun hmisses => by
    rw [Interval.Misses, (hregular document hdocument t ht).not_leap] at hmisses
    simp at hmisses
  exact (Interval.IsStart.of_truncate? htruncate hmisses).1

theorem countP_time? : documents.countP (fun document => (startOf field interval document).isSome)
    = documents.countP fun document => (document.time? field).isSome := by
  refine List.countP_congr fun document hdocument => ?_
  rw [startOf]
  cases ht : document.time? field with
  | none => simp
  | some t => simpa using (hregular document hdocument t ht).truncate?_isSome interval

/-- **Filling gaps is complete**, and ends. -/
theorem Grouped.complete (hg : Grouped field interval documents found) :
    Complete field interval documents (filled interval found)
      ∧ ∀ first ∈ found.head?, ∀ last ∈ found.getLast?,
        Steps interval last.1 first.1 (startsBetween interval first.1 last.1) := by
  have hstarts := isStart_of_regular hregular hg
  obtain ⟨starts, hfilled, hchain, hascending, hhead, hlast⟩ := hg.exists_filled hstarts
  have hkeys : (filled interval found).map Prod.fst = starts := by
    rw [hfilled, List.map_map]
    exact List.map_id starts
  have hne : ∀ entry ∈ found, members field interval documents entry.1 ≠ [] := by
    intro entry hentry
    have hget := hg.sorted.get?_of_mem hentry
    exact (hg.of_mem hentry).1 ▸ hg.nonempty _ _ hget
  refine ⟨⟨hkeys.symm ▸ hascending, hkeys.symm ▸ hchain, ?_, ?_, ?_, ?_⟩, ?_⟩
  · intro entry hentry
    rw [hfilled, List.head?_map, hhead, Option.map_map] at hentry
    obtain ⟨own, hown, rfl⟩ := Option.map_eq_some_iff.mp hentry
    exact hne own (List.mem_of_head? hown)
  · intro entry hentry
    rw [hfilled, List.getLast?_map, hlast, Option.map_map] at hentry
    obtain ⟨own, hown, rfl⟩ := Option.map_eq_some_iff.mp hentry
    exact hne own (List.mem_of_getLast? hown)
  · intro entry hentry
    rw [hfilled] at hentry
    obtain ⟨start, -, rfl⟩ := List.mem_map.mp hentry
    rfl
  · rw [sum_filled, hg.sum_length, countP_time? hregular]
  · intro first hfirst last hlast'
    have hmem := List.mem_of_getLast? hlast'
    exact steps_startsBetween (hstarts _ (List.mem_of_head? hfirst))
      (between_of_sorted hg.sorted hfirst hlast' hmem).1

/-- **Gaps are filled without a loss.** The loop ends, the buckets follow each other from the first
document to the last, and whoever asks for a least count gets those of them that have it. -/
theorem run_filled (sorter : Sorter) (interval : Interval) :
    ∃ found, Histogram.groups field interval documents = .ok found
      ∧ (∀ first ∈ found.head?, ∀ last ∈ found.getLast?,
        Steps interval last.1 first.1 (startsBetween interval first.1 last.1))
      ∧ Complete field interval documents (filled interval found)
      ∧ Aggregation.run sorter documents (.histogram field interval 0 [])
        = .ok (bucketsJson (fun _ => []) (filled interval found))
      ∧ ∀ least, 1 ≤ least → Aggregation.run sorter documents (.histogram field interval least [])
        = .ok (bucketsJson (fun _ => [])
          ((filled interval found).filter fun entry => least ≤ entry.2.length)) := by
  have hplaced : ∀ document ∈ documents, Placed field interval document :=
    fun document hdocument t ht =>
      (hregular document hdocument t ht).truncate?_isSome interval
  obtain ⟨found, hfound, hg⟩ := groups_grouped hplaced
  obtain ⟨hcomplete, hsteps⟩ := hg.complete hregular
  refine ⟨found, hfound, hsteps, hcomplete, ?_, fun least hleast => ?_⟩
  · rw [run_histogram_eq sorter hfound, if_pos rfl]
    simp
  · rw [run_histogram_eq sorter hfound, if_neg (by omega), filter_filled]
    exact fun start => decide_eq_false (Nat.not_le.mpr hleast)

end

/-- Between two documents three minutes apart two buckets are put in. -/
theorem run_filled_minutes :
    let sorter : Sorter := .insertion 20
    let late : Instant := ⟨0, 180, 0, by decide, by decide, by decide, by decide, by decide⟩
    let documents : List Document := [⟨late, []⟩, ⟨.epoch, [("n", .int 1)]⟩]
    ∃ found, Histogram.groups "timestamp" .minute documents = .ok found
      ∧ Complete "timestamp" .minute documents (filled .minute found)
      ∧ (filled .minute found).map (fun entry => entry.2.length) = [1, 0, 0, 1]
      ∧ Aggregation.run sorter documents (.histogram "timestamp" .minute 1 [])
        = .ok (bucketsJson (fun _ => [])
          ((filled .minute found).filter fun entry => 1 ≤ entry.2.length)) := by
  intro sorter late documents
  have hregular : ∀ document ∈ documents, ∀ t ∈ document.time? "timestamp", t.Regular := by
    intro document hdocument t ht
    have htime : document.time? "timestamp" = some document.timestamp := if_pos rfl
    obtain rfl := Option.some.inj (htime.symm.trans ht)
    rcases List.mem_cons.mp hdocument with rfl | hdocument
    · exact ⟨rfl, by decide⟩
    · rw [List.mem_singleton.mp hdocument]
      exact ⟨rfl, by decide⟩
  obtain ⟨found, hfound, -, hcomplete, -, hleast⟩ := run_filled hregular sorter .minute
  have hvalue : Histogram.groups "timestamp" .minute documents
      = .ok [(.epoch, [⟨.epoch, [("n", .int 1)]⟩]), (late, [⟨late, []⟩])] := by cbv
  obtain rfl := Except.ok.inj (hfound.symm.trans hvalue)
  exact ⟨_, hvalue, hcomplete, by decide +kernel, hleast 1 (Nat.le_refl 1)⟩

end Histogram

end LogSearch
