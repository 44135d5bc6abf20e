import Mathlib
import LogSearch.Index.Resolution
import LogSearch.Proofs.Index.Order

/-!
# The ranges that a resolver gives

A resolver with a table of ranges selects those of a window, keeps of them those of one index set if
the filter names a stream, and puts them in order. `Chosen` says what is then left.

Main statement: without a stream, or with one that is registered, exactly the ranges that are wanted
are left, each key once; a stream that is not registered is an error (`rangesOf_table`).
-/

namespace LogSearch

variable {table : RangeTable} {range : IndexRange} {ranges kept : List IndexRange} {w : Window}

/-! ## Windows -/

/-- The index is still being written to, or its span and the window have an instant in common. -/
def IndexRange.Meets (range : IndexRange) (w : Window) : Prop :=
  range.isLatest = true ∨ (range.start ≤ w.stop ∧ w.start ≤ range.stop)

theorem IndexRange.mayContain_iff : range.mayContain w = true ↔ range.Meets w := by
  rw [mayContain, Meets, isLatest, start, stop]
  split
  · next start stop _ hspan =>
    rw [hspan]
    simp only [Bool.and_eq_true, decide_eq_true_eq, Bool.false_eq_true, false_or]
  · next hspan =>
    rw [hspan]
    simp only [true_or]

/-! ## What is left -/

/-- Of the ranges that are wanted the first with each key, by ascending keys. -/
structure Chosen (wanted : IndexRange → Prop) (ranges kept : List IndexRange) : Prop where
  ascending : Ascending kept
  keys : ∀ key, (∃ range ∈ kept, range.key = key)
    ↔ ∃ range ∈ ranges, wanted range ∧ range.key = key
  first : ∀ range ∈ kept, wanted range ∧ ∃ before after, ranges = before ++ range :: after
    ∧ ∀ other ∈ before, wanted other → other.key ≠ range.key

/-- **Filtering and ordering ranges chooses among them.** -/
theorem chosen_orderRanges {wanted : IndexRange → Prop} {p : IndexRange → Bool}
    (h : ∀ range, p range = true ↔ wanted range) (ranges : List IndexRange) :
    Chosen wanted ranges (orderRanges (ranges.filter p)) := by
  refine ⟨ascending_orderRanges _, fun key => ⟨?_, ?_⟩, fun range hrange => ?_⟩
  · rintro ⟨range, hrange, hkey⟩
    obtain ⟨hmem, hp⟩ := List.mem_filter.mp (mem_of_mem_orderRanges hrange)
    exact ⟨range, hmem, (h range).mp hp, hkey⟩
  · rintro ⟨range, hmem, hwanted, rfl⟩
    exact exists_mem_orderRanges (List.mem_filter.mpr ⟨hmem, (h range).mpr hwanted⟩)
  · have hfind := mem_orderRanges_iff.mp hrange
    rw [List.find?_filter, List.find?_eq_some_iff_append] at hfind
    obtain ⟨hp, before, after, hranges, hbefore⟩ := hfind
    refine ⟨(h range).mp (decide_eq_true_iff.mp hp).1, before, after, hranges, ?_⟩
    intro other hother hwanted hkey
    have := hbefore other hother
    simp [(h other).mpr hwanted, hkey] at this

/-! ## Registered streams -/

theorem lookupStream_eq_error {streams : List Stream} {id : String}
    (h : ∀ stream ∈ streams, stream.id ≠ id) :
    lookupStream streams id = .error (.notFound id) := by
  have hnone : (streams.reverse.find? fun stream => stream.id == id) = none := by
    rw [List.find?_eq_none]
    intro stream hstream
    simpa using h stream (List.mem_reverse.mp hstream)
  rw [lookupStream, hnone]

/-- Of several streams with an id the last is found. -/
theorem lookupStream_append {before after : List Stream} {stream : Stream}
    (h : ∀ later ∈ after, later.id ≠ stream.id) :
    lookupStream (before ++ stream :: after) stream.id = .ok stream := by
  have hfind : ((before ++ stream :: after).reverse.find? fun other => other.id == stream.id)
      = some stream := by
    rw [List.find?_eq_some_iff_append]
    refine ⟨by simp, after.reverse, before.reverse, by simp, fun later hlater => ?_⟩
    simpa using h later (List.mem_reverse.mp hlater)
  rw [lookupStream, hfind]

/-! ## Resolvers -/

namespace Resolver

variable {streams : StreamLookup} {readKeyword : KeywordReader} {filter : Option String}

theorem rangesOf_unmarked (h : filter.bind markedStream? = none) :
    (⟨table.lookup, streams, readKeyword⟩ : Resolver).rangesOf w filter
      = .ok (orderRanges (table.find w)) := by
  simp only [rangesOf, RangeTable.lookup, h]

theorem rangesOf_marked {id : String} (h : filter.bind markedStream? = some id) :
    (⟨table.lookup, streams, readKeyword⟩ : Resolver).rangesOf w filter
      = match streams id with
        | .error e => .error (.stream e)
        | .ok stream =>
          .ok (orderRanges
            ((table.find w).filter fun range => stream.indexSet.manages range.name)) := by
  cases hid : streams id <;> simp only [rangesOf, RangeTable.lookup, h, hid]

/-- **A resolver gives exactly the ranges that are wanted.** Those that meet the window; if the
filter names a stream, those of them that its index set manages, or an error if no such stream is
registered. -/
theorem rangesOf_table (table : RangeTable) (streams : List Stream) (readKeyword : KeywordReader)
    (w : Window) (filter : Option String) :
    let found := (⟨table.lookup, lookupStream streams, readKeyword⟩ : Resolver).rangesOf w filter
    match filter.bind markedStream? with
    | none => ∃ kept, found = .ok kept ∧ Chosen (fun range => range.Meets w) table.ranges kept
    | some id =>
      ((∀ stream ∈ streams, stream.id ≠ id) → found = .error (.stream (.notFound id)))
      ∧ ∀ before stream after, streams = before ++ stream :: after → stream.id = id →
        (∀ later ∈ after, later.id ≠ id) →
        ∃ kept, found = .ok kept
          ∧ Chosen (fun range => range.Meets w ∧ stream.indexSet.manages range.name = true)
            table.ranges kept := by
  intro found
  split
  · next hmarker =>
    exact ⟨_, rangesOf_unmarked hmarker,
      chosen_orderRanges (fun range => IndexRange.mayContain_iff) table.ranges⟩
  · next id hmarker =>
    have hfound : found = _ := rangesOf_marked hmarker
    refine ⟨fun hnone => ?_, ?_⟩
    · rw [hfound, lookupStream_eq_error hnone]
    · rintro before stream after rfl rfl hlater
      rw [lookupStream_append hlater] at hfound
      refine ⟨_, hfound, ?_⟩
      rw [RangeTable.find, List.filter_filter]
      refine chosen_orderRanges (fun range => ?_) table.ranges
      rw [Bool.and_eq_true, IndexRange.mayContain_iff, and_comm]

/-- A key that comes twice, an index that is still being written to, and one of another set. -/
theorem rangesOf_table_marked :
    let later : Instant := ⟨1, 0, 0, by decide, by decide, by decide, by decide, by decide⟩
    let table : RangeTable :=
      ⟨[⟨"b_0", .bounded .epoch later (by decide), .epoch, 0, none⟩, .latest "b_1" .epoch,
        ⟨"b_0", .bounded .epoch .epoch (by decide), later, 7, none⟩, .latest "a_0" .epoch]⟩
    let resolver : Resolver :=
      ⟨table.lookup, lookupStream [⟨"ab", "", ⟨"b"⟩⟩], fun _ _ => .error .calendarEnd⟩
    ∃ kept, resolver.rangesOf ⟨.epoch, .epoch⟩ (some "streams:ab") = .ok kept
      ∧ Chosen (fun range => range.Meets ⟨.epoch, .epoch⟩
          ∧ (⟨"b"⟩ : IndexSet).manages range.name = true) table.ranges kept := by
  intro later table resolver
  have hmarker : (some "streams:ab").bind markedStream? = some "ab" := by cbv
  have hchosen := rangesOf_table table [⟨"ab", "", ⟨"b"⟩⟩] (fun _ _ => .error .calendarEnd)
    ⟨.epoch, .epoch⟩ (some "streams:ab")
  simp only [hmarker] at hchosen
  exact hchosen.2 [] ⟨"ab", "", ⟨"b"⟩⟩ [] rfl rfl (by simp)

end Resolver

end LogSearch
