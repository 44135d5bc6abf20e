import LogSearch.Proofs.Search.Gaps
import LogSearch.Proofs.Store.Buckets
import LogSearch.Proofs.Time.Edges

/-!
# Times at the beginning of the calendar

The first four days of the calendar lie in a week that begins before it, so a time on one of them has
no place in a grouping by weeks, and this ends the computation. A document may hold such a time in any
of its fields (`Document.IsEarly`), and a request may group by any field, inside other groupings too.

Main statement: over a store some search ends in this way exactly if it goes over a document that holds
such a time (`Store.exists_search_calendarEnd_iff`). That nothing else does it is by induction on what
is asked for: the groups inside a group are of documents of that group.
-/

namespace LogSearch

/-- Whether a document holds a time on one of the first four days. -/
def Document.IsEarly (document : Document) : Prop :=
  ∃ field t, document.time? field = some t ∧ t.day < minDay + 4

/-! ## Conditions -/

/-- A bound compares times and does not move them. -/
theorem Bound.allHold_ne_calendarEnd (document : Document) (field : String) (bounds : List Bound) :
    allHold document field bounds ≠ .error .calendarEnd := by
  induction bounds with
  | nil => simp [allHold]
  | cons bound rest ih =>
    have hbound : bound.holds document field ≠ .error .calendarEnd := by
      cases bound <;> simp [holds]
    rw [allHold]
    split
    · next e he => rwa [he] at hbound
    · simp
    · exact ih

namespace Condition

mutual

theorem holds_ne_calendarEnd (document : Document) :
    ∀ condition : Condition, condition.holds document ≠ .error .calendarEnd
  | .always => nofun
  | .present _ => nofun
  | .equals _ _ => nofun
  | .text _ => nofun
  | .fault _ => nofun
  | .range field bounds => Bound.allHold_ne_calendarEnd document field bounds
  | .bool required forbidden optional => by
    have hrequired := allHold_ne_calendarEnd document required
    have hforbidden := anyHolds_ne_calendarEnd document forbidden
    have hoptional := anyHolds_ne_calendarEnd document optional
    rw [holds]
    split
    · next e he => rwa [he] at hrequired
    · nofun
    · split
      · next e he => rwa [he] at hforbidden
      · nofun
      · split
        · nofun
        · exact hoptional

theorem allHold_ne_calendarEnd (document : Document) :
    ∀ conditions : List Condition, allHold document conditions ≠ .error .calendarEnd
  | [] => nofun
  | condition :: rest => by
    have hfirst := holds_ne_calendarEnd document condition
    have hrest := allHold_ne_calendarEnd document rest
    rw [allHold]
    split
    · next e he => rwa [he] at hfirst
    · nofun
    · exact hrest

theorem anyHolds_ne_calendarEnd (document : Document) :
    ∀ conditions : List Condition, anyHolds document conditions ≠ .error .calendarEnd
  | [] => nofun
  | condition :: rest => by
    have hfirst := holds_ne_calendarEnd document condition
    have hrest := anyHolds_ne_calendarEnd document rest
    rw [anyHolds]
    split
    · next e he => rwa [he] at hfirst
    · nofun
    · exact hrest

end

end Condition

/-- **No condition leaves the calendar**, on whatever documents. -/
theorem Store.select_ne_calendarEnd (condition : Condition) (documents : List Document) :
    select condition documents ≠ .error .calendarEnd := by
  induction documents with
  | nil => simp [select]
  | cons document rest ih =>
    have hholds := condition.holds_ne_calendarEnd document
    rw [select]
    cases hfirst : condition.holds document with
    | error e =>
      rw [hfirst] at hholds
      simpa using hholds
    | ok hit =>
      cases hrest : select condition rest with
      | error e =>
        rw [hrest] at ih
        simpa using ih
      | ok hits => simp

/-! ## Groupings -/

namespace Histogram

variable {field : String} {interval : Interval} {documents : List Document}

/-- A grouping by time ends only for a document of the first days. -/
theorem exists_isEarly_of_groups {e : BackendError} (h : groups field interval documents = .error e) :
    ∃ document ∈ documents, document.IsEarly := by
  by_contra hno
  have hplaced : ∀ document ∈ documents, Placed field interval document := by
    intro document hdocument t htime
    refine Interval.truncate?_isSome_iff.mpr ?_
    rintro ⟨-, hday⟩
    exact hno ⟨document, hdocument, field, t, htime, hday⟩
  obtain ⟨found, hfound, -⟩ := groups_grouped hplaced
  rw [h] at hfound
  cases hfound

end Histogram

namespace Aggregation

variable {sorter : Sorter}

mutual

/-- **Only a time of the first days ends a computation at the end of the calendar**, however deep the
grouping is that meets it. -/
theorem exists_isEarly_of_run :
    ∀ (aggregation : Aggregation) {documents : List Document},
      run sorter documents aggregation = .error .calendarEnd → ∃ document ∈ documents, document.IsEarly
  | .terms field size order inner, documents, h => by
    rw [run] at h
    rcases of_bind_eq_error h with h | ⟨_, -, h⟩
    · obtain ⟨group, hgroup, h⟩ := exists_of_mapM_eq_error h
      rcases of_bind_eq_error h with h | ⟨_, -, h⟩
      · obtain ⟨document, hdocument, hearly⟩ := exists_isEarly_of_runInto inner h
        rw [TermGroup.members_eq_filter hgroup] at hdocument
        exact ⟨document, (List.mem_filter.mp hdocument).1, hearly⟩
      · cases h
    · -- sorting goes wrong in another way
      rcases of_bind_eq_error h with h | ⟨_, -, h⟩
      · cases Sorter.eq_unsorted_of_sorted h
      · cases h
  | .histogram field interval minCount inner, documents, h => by
    rw [run] at h
    rcases of_bind_eq_error h with h | ⟨groups, hgroups, h⟩
    · exact Histogram.exists_isEarly_of_groups h
    · have hgrouped := Histogram.grouped_of_eq_ok hgroups
      rcases of_bind_eq_error h with h | ⟨_, -, h⟩
      · obtain ⟨entry, hentry, h⟩ := exists_of_mapM_eq_error h
        rcases of_bind_eq_error h with h | ⟨_, -, h⟩
        · obtain ⟨document, hdocument, hearly⟩ := exists_isEarly_of_runInto inner h
          -- an empty group that is filled in has no document to fail for
          have hmem : entry ∈ groups := by
            have hkept := (List.mem_filter.mp hentry).1
            split at hkept
            · rcases Histogram.mem_or_eq_nil_of_mem_filled hkept with hmem | hnil
              · exact hmem
              · rw [hnil] at hdocument
                cases hdocument
            · exact hkept
          exact ⟨document, hgrouped.mem_of_mem hmem hdocument, hearly⟩
        · cases h
      · cases h
  | .missing field inner, documents, h => by
    rw [run] at h
    rcases of_bind_eq_error h with h | ⟨_, -, h⟩
    · obtain ⟨document, hdocument, hearly⟩ := exists_isEarly_of_runInto inner h
      exact ⟨document, (List.mem_filter.mp hdocument).1, hearly⟩
    · cases h
  | .metric _ _, _, h => by cases h
  | .fault _, _, h => by cases h

theorem exists_isEarly_of_runInto :
    ∀ (inner : List (String × Aggregation)) {fields : List (String × Json)}
      {documents : List Document},
      runInto sorter fields documents inner = .error .calendarEnd →
        ∃ document ∈ documents, document.IsEarly
  | [], _, _, h => by cases h
  | (name, aggregation) :: rest, _, _, h => by
    rw [runInto] at h
    rcases of_bind_eq_error h with h | ⟨_, -, h⟩
    · exact exists_isEarly_of_run aggregation h
    · exact exists_isEarly_of_runInto rest h

end

end Aggregation

/-! ## Searches -/

/-- A request for the documents by the week of a field. -/
def weeksBody (field : String) : Json :=
  .obj [("aggs", .obj [("weeks", .obj [("date_histogram", .obj
    [("calendar_interval", .str "week"), ("field", .str field)])])])]

namespace Store

theorem conditionOf_weeksBody (field : String) : conditionOf (weeksBody field) = .always := rfl

theorem aggregationsOf_weeksBody (field : String) :
    aggregationsOf (weeksBody field) = some [("weeks", .histogram field .week 0 [])] := rfl

theorem select_always (documents : List Document) : select .always documents = .ok documents := by
  rw [select_eq_filter (p := fun _ => true) fun _ => rfl, List.filter_true]

/-- **Which stores have a search that leaves the calendar.** -/
theorem exists_search_calendarEnd_iff {store : Store} {names : List String} :
    (∃ body, store.search names body = .error .calendarEnd)
      ↔ ∃ document ∈ store.searched names, document.IsEarly := by
  constructor
  · rintro ⟨body, h⟩
    rw [search] at h
    cases hselect : select (conditionOf body) (store.searched names) with
    | error e =>
      rw [hselect] at h
      obtain rfl := Except.error.inj h
      exact absurd hselect (select_ne_calendarEnd _ _)
    | ok hits =>
      rw [hselect] at h
      cases haggregations : aggregationsOf body with
      | none =>
        rw [haggregations] at h
        cases h
      | some aggregations =>
        rw [haggregations] at h
        cases hrun : Aggregation.runInto store.sorter [] hits aggregations with
        | ok results =>
          simp only [hrun] at h
          cases h
        | error e =>
          simp only [hrun] at h
          obtain rfl := Except.error.inj h
          obtain ⟨document, hdocument, hearly⟩ := Aggregation.exists_isEarly_of_runInto _ hrun
          exact ⟨document, mem_of_mem_select hselect hdocument, hearly⟩
  · rintro ⟨document, hdocument, field, t, htime, hday⟩
    have hgroups : Histogram.groups field .week (store.searched names) = .error .calendarEnd := by
      refine Histogram.groups_eq_error ⟨document, hdocument, fun hplaced => ?_⟩
      have hsome := hplaced t htime
      rw [Interval.truncate?_week_eq_none hday] at hsome
      cases hsome
    have hrun : Aggregation.runInto store.sorter [] (store.searched names)
        [("weeks", .histogram field .week 0 [])] = .error .calendarEnd := by
      rw [Aggregation.runInto, Aggregation.run, hgroups]
      rfl
    refine ⟨weeksBody field, ?_⟩
    rw [search, conditionOf_weeksBody, aggregationsOf_weeksBody, select_always]
    simp only [hrun]

end Store

end LogSearch
