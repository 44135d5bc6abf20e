import LogSearch.Proofs.Search.Answers
import LogSearch.Proofs.Search.Columns
import LogSearch.Proofs.Search.EarlyTimes

/-!
# Searches at the ends of the calendar

A computation that leaves the calendar and cannot go on ends a search without an answer. A search
comes to such an end in two ways (`Searcher.stops_iff`): its range is the day before the first day of
the calendar, in words, or it is a histogram by weeks and finds a document of the first four days, which
lie in a week that begins before the calendar. Nothing else that a search asks for or that is stored has
this effect.
-/

namespace LogSearch

/-! ## Operations -/

/-- Whether a grouping by an interval has to go back past the first day for some document. -/
def Interval.Leaves (interval : Interval) (hits : List Document) : Prop :=
  interval = .week ∧ ∃ document ∈ hits, document.timestamp.day < minDay + 4

/-- A document of the first days has no place in a grouping by weeks, and this ends the grouping. -/
theorem Histogram.groups_cases (interval : Interval) (hits : List Document) :
    (¬interval.Leaves hits ∧ ∃ found, groups "timestamp" interval hits = .ok found)
      ∨ interval.Leaves hits ∧ groups "timestamp" interval hits = .error .calendarEnd := by
  by_cases hleaves : interval.Leaves hits
  · refine .inr ⟨hleaves, groups_eq_error ?_⟩
    obtain ⟨rfl, document, hdocument, hday⟩ := hleaves
    refine ⟨document, hdocument, fun hplaced => ?_⟩
    have hsome := hplaced document.timestamp (if_pos rfl)
    rw [Interval.truncate?_week_eq_none hday] at hsome
    cases hsome
  · refine .inl ⟨hleaves, ?_⟩
    have hplaced : ∀ document ∈ hits, Placed "timestamp" interval document := by
      intro document hdocument
      refine placed_timestamp (Interval.truncate?_isSome_iff.mpr ?_)
      rintro ⟨rfl, hday⟩
      exact hleaves ⟨rfl, document, hdocument, hday⟩
    obtain ⟨found, hfound, -⟩ := groups_grouped hplaced
    exact ⟨found, hfound⟩

namespace SearchCall

/-- The interval that an operation groups by, if it groups by time. -/
def interval? : SearchCall → Option Interval
  | .histogram interval => some interval
  | .fieldHistogram _ interval _ => some interval
  | .count => none
  | .terms .. => none
  | .groupedStats .. => none
  | .fieldStats _ => none

/-- Whether an operation has to go back past the first day for some document. -/
def Leaves (call : SearchCall) (hits : List Document) : Prop :=
  ∃ interval ∈ call.interval?, interval.Leaves hits

variable {sorter : Sorter} {w : Window} {hits : List Document}

/-- What is made of groups leaves the calendar if the grouping does. -/
theorem onHits_eq_calendarEnd_of_groups {call : SearchCall} {interval : Interval}
    {make : Histogram.Groups → call.Result} (hinterval : call.interval? = some interval)
    (hgroups : call.operation.onHits sorter w hits
      = (Histogram.groups "timestamp" interval hits).map make) :
    call.operation.onHits sorter w hits = .error .calendarEnd ↔ call.Leaves hits := by
  have hleaves : call.Leaves hits ↔ interval.Leaves hits := by
    simp [Leaves, hinterval]
  rw [hleaves, hgroups]
  rcases Histogram.groups_cases interval hits with ⟨hstays, found, hfound⟩ | ⟨hleaves, hend⟩
  · rw [hfound]
    simp [Except.map, hstays]
  · rw [hend]
    simp [Except.map, hleaves]

/-- What is made of sorted buckets never does. -/
theorem onHits_ne_calendarEnd_of_sorted {call : SearchCall} {orders : List TermsOrder}
    {buckets : List TermBucket} {make : List TermBucket → call.Result}
    (hsorted : call.operation.onHits sorter w hits = (sorter.sorted orders buckets).map make) :
    call.operation.onHits sorter w hits ≠ .error .calendarEnd := by
  rw [hsorted]
  cases hsort : sorter.sorted orders buckets with
  | error e =>
    rw [Sorter.eq_unsorted_of_sorted hsort]
    simp [Except.map]
  | ok sorted => simp [Except.map]

theorem onHits_ne_calendarEnd_of_ok {call : SearchCall} {result : call.Result}
    (hresult : call.operation.onHits sorter w hits = .ok result) :
    call.operation.onHits sorter w hits ≠ .error .calendarEnd := by
  rw [hresult]
  simp

/-- **When an operation leaves the calendar for hits.** -/
theorem onHits_eq_calendarEnd_iff (call : SearchCall) :
    call.operation.onHits sorter w hits = .error .calendarEnd ↔ call.Leaves hits := by
  have hno (hinterval : call.interval? = none)
      (hne : call.operation.onHits sorter w hits ≠ .error .calendarEnd) :
      call.operation.onHits sorter w hits = .error .calendarEnd ↔ call.Leaves hits := by
    simp [Leaves, hinterval, hne]
  cases call with
  | histogram interval =>
    exact onHits_eq_calendarEnd_of_groups rfl (Operation.onHits_histogram sorter interval w hits)
  | fieldHistogram field interval full =>
    exact onHits_eq_calendarEnd_of_groups rfl
      (Operation.onHits_fieldHistogram sorter field interval full w hits)
  | count => exact hno rfl (onHits_ne_calendarEnd_of_ok (Operation.onHits_count sorter w hits))
  | terms field size direction =>
    exact hno rfl (onHits_ne_calendarEnd_of_sorted
      (Operation.onHits_terms sorter field size direction w hits))
  | groupedStats keyField valueField order size =>
    exact hno rfl (onHits_ne_calendarEnd_of_sorted
      (Operation.onHits_groupedStats sorter keyField valueField order size w hits))
  | fieldStats field =>
    exact hno rfl (onHits_ne_calendarEnd_of_ok (Operation.onHits_fieldStats sorter field w hits))

end SearchCall

/-! ## Searches -/

/-- Whether the computation left the calendar and could not go on. -/
def Outcome.Stops {α : Type} (outcome : Outcome α) : Prop :=
  outcome.result = .error (.timeRange .calendarEnd)
    ∨ outcome.result = .error (.backend .calendarEnd)

/-- Only an expression can leave the calendar on the way to a window. -/
theorem TimeRange.resolve_calendarEnd_iff {range : TimeRange} {now : Instant} :
    range.resolve readKeyword now = .error .calendarEnd
      ↔ ∃ text, range = .keyword text ∧ Keyword.IsReadAs text .yesterday ∧ now.day = minDay := by
  cases range with
  | absolute start stop =>
    rw [resolve, Window.ofBounds]
    split <;> simp
  | relative seconds => simp [resolve]
  | keyword text =>
    rw [resolve, readKeyword_calendarEnd_iff]
    simp

namespace Searcher

variable {searcher : Searcher} {store : Store} {scope : SearchScope} {now : Instant} {w : Window}
  {names : List String}

/-- The lookup of indices has no time range to go wrong about. -/
theorem ofResolve_ne_timeRange {e : ResolveError} (h : searcher.indices scope w = .error e)
    (error : TimeRangeError) : e ≠ .timeRange error := by
  rw [indices] at h
  split at h
  · cases hranges : searcher.resolver.rangesOf w scope.filter with
    | ok found =>
      rw [hranges] at h
      cases h
    | error e' =>
      rw [hranges] at h
      obtain rfl := Except.error.inj h
      rintro rfl
      unfold Resolver.rangesOf at hranges
      split at hranges
      · cases hranges
      · split at hranges
        · cases hranges
        · split at hranges <;> cases hranges
  · cases h

/-- A search whose indices are known stops exactly if its operation leaves the calendar for what is
selected. -/
theorem stops_iff_of_indices (store : Store) (call : SearchCall)
    (hw : searcher.resolver.window now scope.range = .ok w)
    (hn : searcher.indices scope w = .ok names) :
    (searcher.run store.backend now scope call.operation).Stops
      ↔ ∃ hits, Store.select (.ofJson (Query.filtered scope.query scope.filter (some w)
          searcher.leadingWildcard)) (store.searched names) = .ok hits ∧ call.Leaves hits := by
  rw [Outcome.Stops]
  cases hselect : Store.select (.ofJson (Query.filtered scope.query scope.filter (some w)
      searcher.leadingWildcard)) (store.searched names) with
  | error e =>
    have hne : e ≠ .calendarEnd := fun he => Store.select_ne_calendarEnd _ _ (he ▸ hselect)
    have hsearch : store.search names (searcher.body scope w call.operation.aggregations)
        = .error e := by
      rw [Store.search, Searcher.body, Store.conditionOf_body, hselect]
    -- without names nothing would have been selected or refused
    have hnames : names ≠ [] := by
      rintro rfl
      cases hselect
    have hrun : (searcher.run store.backend now scope call.operation).result
        = .error (.backend e) := by
      rw [run_of_indices scope hw hn, if_neg (by simpa using hnames), Store.backend, hsearch]
      rfl
    rw [hrun]
    simp [hne]
  | ok hits =>
    have hanswer : store.search names (searcher.body scope w call.operation.aggregations)
        = Store.answer store.sorter hits call.operation.aggregations :=
      Store.search_of_select hselect _
    have hempty : names = [] → hits = [] := by
      rintro rfl
      exact (Except.ok.inj hselect).symm
    have hleaves : call.operation.onHits store.sorter w hits = .error .calendarEnd ↔ _ :=
      call.onHits_eq_calendarEnd_iff
    rw [run_of_answer scope hw hn hanswer hempty (call.read_none store.sorter w)]
    cases hresult : call.operation.onHits store.sorter w hits with
    | error e =>
      rw [hresult] at hleaves
      simp [← hleaves]
    | ok result =>
      rw [hresult] at hleaves
      simp [← hleaves]

/-- **When a search stops at the end of the calendar.** -/
theorem stops_iff (ranges : RangeLookup) (streams : StreamLookup) (leadingWildcard : Bool)
    (store : Store) (now : Instant) (scope : SearchScope) (call : SearchCall) :
    let searcher : Searcher := ⟨⟨ranges, streams, readKeyword⟩, leadingWildcard⟩
    (searcher.run store.backend now scope call.operation).Stops
      ↔ (∃ text, scope.range = .keyword text ∧ Keyword.IsReadAs text .yesterday ∧ now.day = minDay)
        ∨ ∃ w names hits, searcher.resolver.window now scope.range = .ok w
          ∧ searcher.indices scope w = .ok names
          ∧ Store.select (.ofJson (Query.filtered scope.query scope.filter (some w)
            leadingWildcard)) (store.searched names) = .ok hits
          ∧ call.Leaves hits := by
  intro searcher
  have hkeyword : searcher.resolver.window now scope.range = .error .calendarEnd ↔ _ :=
    TimeRange.resolve_calendarEnd_iff
  rw [← hkeyword]
  cases hw : searcher.resolver.window now scope.range with
  | error e =>
    rw [Outcome.Stops, run_of_no_window scope hw]
    simp
  | ok w =>
    cases hn : searcher.indices scope w with
    | error e =>
      have hne : ∀ error, e ≠ .timeRange error := ofResolve_ne_timeRange hn
      have hrun := congrArg Outcome.result
        (run_eq_of_indices_error hw hn store.backend call.operation)
      rw [Outcome.Stops, hrun]
      cases e with
      | timeRange error => exact absurd rfl (hne error)
      | indexRange error => simp [SearchError.ofResolve, hn]
      | stream error => simp [SearchError.ofResolve, hn]
    | ok names =>
      rw [stops_iff_of_indices store call hw hn]
      simp [hn, searcher]

end Searcher

/-! ## The ends of the calendar -/

/-- **What happens at the ends of the calendar.** Windows of days and of expressions are found or found
not to be there, buckets have a start and a next one where the calendar has it, and searches do not stop
there, each with the exceptions that are named; a request of any other form can stop there only at a
store that holds a time of the first days. -/
theorem edges_of_calendar (date : Date) (keyword : Keyword) (interval : Interval)
    (t next now : Instant) (ranges : RangeLookup) (streams : StreamLookup) (leadingWildcard : Bool)
    (store : Store) (names : List String) (scope : SearchScope) (call : SearchCall) :
    let searcher : Searcher := ⟨⟨ranges, streams, readKeyword⟩, leadingWildcard⟩
    ((∃ found, Window.ofDate date = .ok found ∧ ∀ w, found = some w ↔ w.IsDay date)
        ↔ date ≠ Window.lastDate)
      ∧ (keyword.Signals now ↔ ¬(keyword = .yesterday ∧ now.day = minDay))
      ∧ (interval.next? t = some next ↔ interval.IsNext t next)
      ∧ ((interval.truncate? t).isSome ↔ ¬(interval = .week ∧ t.day < minDay + 4))
      ∧ ((searcher.run store.backend now scope call.operation).Stops
        ↔ (∃ text, scope.range = .keyword text ∧ Keyword.IsReadAs text .yesterday
            ∧ now.day = minDay)
          ∨ ∃ w names hits, searcher.resolver.window now scope.range = .ok w
            ∧ searcher.indices scope w = .ok names
            ∧ Store.select (.ofJson (Query.filtered scope.query scope.filter (some w)
              leadingWildcard)) (store.searched names) = .ok hits
            ∧ call.Leaves hits)
      ∧ ((∃ body, store.search names body = .error .calendarEnd)
        ↔ ∃ document ∈ store.searched names, document.IsEarly) :=
  ⟨Window.ofDate_signals_iff date, Keyword.signals_iff keyword now, Interval.next?_eq_some_iff,
    Interval.truncate?_isSome_iff,
    Searcher.stops_iff ranges streams leadingWildcard store now scope call,
    Store.exists_search_calendarEnd_iff⟩

/-- The last day has no window, the first no day before it and no start of its week; neither an
expression nor a document is safe from this. -/
theorem edges_of_calendar_stop :
    let first : Instant := ⟨minDay, 0, 0, by decide, by decide, by decide, by decide, by decide⟩
    let searcher : Searcher := ⟨⟨(⟨[]⟩ : RangeTable).lookup, lookupStream [], readKeyword⟩, true⟩
    let store : Store := ⟨[("a_0", [⟨first, []⟩])], [], .insertion 20⟩
    Window.ofDate Window.lastDate = .error .calendarEnd
      ∧ Keyword.yesterday.window first = some (.error .calendarEnd)
      ∧ Interval.week.truncate? first = none
      ∧ (searcher.run store.backend first ⟨"*", none, .keyword "yesterday", .pattern "a_0"⟩
        SearchCall.count.operation).Stops
      ∧ (searcher.run store.backend .epoch
        ⟨"*", none, .absolute first first, .pattern "a_0"⟩
        (SearchCall.histogram .week).operation).Stops := by
  intro first searcher store
  refine ⟨Window.ofDate_lastDate, Keyword.window_yesterday_of_minDay rfl,
    Interval.truncate?_week_eq_none (by decide), ?_, ?_⟩
  · refine (Searcher.stops_iff _ _ _ _ _ _ _).mpr (.inl ⟨"yesterday", rfl, ?_, rfl⟩)
    exact ⟨[], by decide +kernel, rfl⟩
  · refine (Searcher.stops_iff _ _ _ _ _ _ _).mpr
      (.inr ⟨⟨first, first⟩, ["a_0"], [⟨first, []⟩], rfl, rfl, ?_, ?_⟩)
    · have hall : Query.parse "*" = .ok (.term .all) := rfl
      have hsearched : store.searched ["a_0"] = [⟨first, []⟩] := by cbv
      have hfilter : Query.parse ((none : Option String).getD "*") = .ok (.term .all) := rfl
      have hholds := Condition.holds_filtered hall hfilter ⟨first, first⟩ true
      rw [hsearched, Store.select_eq_filter hholds]
      cbv
    · exact ⟨.week, rfl, rfl, _, List.mem_singleton_self _, by decide⟩

end LogSearch
