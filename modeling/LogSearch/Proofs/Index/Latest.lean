import LogSearch.Proofs.Index.Order

/-!
# Indices that are still being written to

In the order of ranges, the range of an index that is still being written to counts as beginning at
the epoch. So it comes before ranges that begin later, but not before those that begin earlier; and
where a range with bounds begins at the epoch and has the same name, only the first of the two is
kept.

Main statement: exactly these are the cases in which such an index does not come first, or is lost
(`orderRanges_latest_iff`).
-/

namespace LogSearch

variable {range first last : IndexRange} {ranges : List IndexRange}

/-! ## Places in an ascending list -/

/-- What holds of neighbours and all later ranges holds of two ranges whose keys ascend. -/
theorem Ascending.of_lt {S : IndexRange → IndexRange → Prop} (h : Ascending ranges)
    (hS : ranges.Pairwise S) (hfirst : first ∈ ranges) (hlast : last ∈ ranges)
    (hlt : compare first.key last.key = .lt) : S first last := by
  induction ranges with
  | nil => cases hfirst
  | cons head ranges ih =>
    obtain ⟨hhead, htail⟩ := List.pairwise_cons.mp h
    obtain ⟨hShead, hStail⟩ := List.pairwise_cons.mp hS
    rcases List.mem_cons.mp hfirst with rfl | hfirst'
    · rcases List.mem_cons.mp hlast with rfl | hlast'
      · rw [Std.ReflOrd.compare_self] at hlt
        cases hlt
      · exact hShead last hlast'
    · rcases List.mem_cons.mp hlast with rfl | hlast'
      · exact absurd hlt (Std.OrientedCmp.not_lt_of_lt (hhead first hfirst'))
      · exact ih htail hStail hfirst' hlast'

/-- An index that is still being written to counts as beginning at the epoch. -/
theorem key_of_isLatest (h : range.isLatest = true) : range.key = ⟨.epoch, range.name⟩ := by
  rw [IndexRange.isLatest] at h
  rw [IndexRange.key, IndexRange.start]
  split at h
  · next hspan => rw [hspan]
  · cases h

/-- One key is before another if it starts before, or together with a lesser name. -/
theorem RangeKey.compare_eq_lt_iff {a b : RangeKey} :
    compare a b = .lt ↔ a.start < b.start ∨ a.start = b.start ∧ a.name < b.name := by
  have hstart : a.start < b.start ↔ a.start.cmp b.start = .lt := beq_iff_eq
  show (a.start.cmp b.start).then (compareOfLessAndEq a.name b.name) = .lt ↔ _
  rw [Ordering.then_eq_lt, compareOfLessAndEq_eq_lt, Instant.cmp_eq_eq_iff, hstart]

/-! ## First and kept -/

/-- No range with bounds stands before one of an index that is still being written to. -/
def LatestFirst (ranges : List IndexRange) : Prop :=
  ranges.Pairwise fun before after => after.isLatest = true → before.isLatest = true

/-- Every index that is still being written to is so among the ranges kept. -/
def LatestKept (ranges kept : List IndexRange) : Prop :=
  ∀ range ∈ ranges, range.isLatest = true →
    ∃ other ∈ kept, other.isLatest = true ∧ other.name = range.name

theorem latestFirst_orderRanges_iff : LatestFirst (orderRanges ranges)
    ↔ ∀ bounded ∈ orderRanges ranges, bounded.isLatest = false →
      ∀ latest ∈ orderRanges ranges, latest.isLatest = true →
        .epoch < bounded.start ∨ .epoch = bounded.start ∧ latest.name < bounded.name := by
  have hascending := ascending_orderRanges ranges
  constructor
  · intro hfirst bounded hbounded hfalse latest hlatest htrue
    suffices hlt : compare latest.key bounded.key = .lt by
      rw [key_of_isLatest htrue] at hlt
      exact RangeKey.compare_eq_lt_iff.mp hlt
    cases hcmp : compare latest.key bounded.key with
    | lt => rfl
    | eq =>
      -- one key has one range
      have hkey := Std.compare_eq_iff_eq.mp hcmp
      have hsame := hascending.find?_key hlatest
      rw [hkey, hascending.find?_key hbounded] at hsame
      rw [Option.some.inj hsame, htrue] at hfalse
      cases hfalse
    | gt =>
      have hbefore := hascending.of_lt hfirst hbounded hlatest (Std.OrientedCmp.lt_of_gt hcmp) htrue
      rw [hbefore] at hfalse
      cases hfalse
  · intro hlater
    refine hascending.imp_of_mem fun {before after} hbefore hafter hlt htrue => ?_
    cases hlatest : before.isLatest with
    | true => rfl
    | false =>
      have hgt : compare after.key before.key = .lt := by
        rw [key_of_isLatest htrue]
        exact RangeKey.compare_eq_lt_iff.mpr (hlater before hbefore hlatest after hafter htrue)
      exact absurd hgt (Std.OrientedCmp.not_lt_of_lt hlt)

theorem latestKept_orderRanges_iff : LatestKept ranges (orderRanges ranges)
    ↔ ∀ latest ∈ ranges, latest.isLatest = true → ∃ first,
      ranges.find? (fun range => range.key = ⟨.epoch, latest.name⟩) = some first
        ∧ first.isLatest = true := by
  constructor
  · intro hkept latest hlatest htrue
    obtain ⟨other, hother, htrue', hname⟩ := hkept latest hlatest htrue
    have hfind := mem_orderRanges_iff.mp hother
    rw [key_of_isLatest htrue', hname] at hfind
    exact ⟨other, hfind, htrue'⟩
  · intro hfirst latest hlatest htrue
    obtain ⟨first, hfind, htrue'⟩ := hfirst latest hlatest htrue
    have hkey : first.key = ⟨.epoch, latest.name⟩ := by simpa using List.find?_some hfind
    refine ⟨first, mem_orderRanges_iff.mpr ?_, htrue', congrArg RangeKey.name hkey⟩
    rw [hkey]
    exact hfind

/-- **When indices that are still being written to come first, and when they are kept.** They come
first exactly if the ranges with bounds begin after the epoch, or at the epoch with a greater name;
and one is kept exactly if no range with bounds that begins at the epoch and has its name stands
before it. So both hold if all ranges with bounds begin after the epoch. -/
theorem orderRanges_latest_iff (ranges : List IndexRange) :
    (LatestFirst (orderRanges ranges)
      ↔ ∀ bounded ∈ orderRanges ranges, bounded.isLatest = false →
        ∀ latest ∈ orderRanges ranges, latest.isLatest = true →
          .epoch < bounded.start ∨ .epoch = bounded.start ∧ latest.name < bounded.name)
    ∧ (LatestKept ranges (orderRanges ranges)
      ↔ ∀ latest ∈ ranges, latest.isLatest = true → ∃ first,
        ranges.find? (fun range => range.key = ⟨.epoch, latest.name⟩) = some first
          ∧ first.isLatest = true)
    ∧ ((∀ bounded ∈ ranges, bounded.isLatest = false → .epoch < bounded.start) →
      LatestFirst (orderRanges ranges) ∧ LatestKept ranges (orderRanges ranges)) := by
  refine ⟨latestFirst_orderRanges_iff, latestKept_orderRanges_iff, fun hlater => ⟨?_, ?_⟩⟩
  · rw [latestFirst_orderRanges_iff]
    intro bounded hbounded hfalse _ _ _
    exact Or.inl (hlater bounded (mem_of_mem_orderRanges hbounded) hfalse)
  · rw [latestKept_orderRanges_iff]
    intro latest hlatest htrue
    cases hfind : ranges.find? fun range => range.key = ⟨.epoch, latest.name⟩ with
    | none =>
      have hnone := List.find?_eq_none.mp hfind latest hlatest
      rw [key_of_isLatest htrue] at hnone
      simp at hnone
    | some first =>
      refine ⟨first, rfl, ?_⟩
      have hkey : first.key = ⟨.epoch, latest.name⟩ := by simpa using List.find?_some hfind
      cases hfalse : first.isLatest with
      | true => rfl
      | false =>
        -- it would begin after the epoch and at the epoch
        have hlt := hlater first (List.mem_of_find?_eq_some hfind) hfalse
        rw [show first.start = .epoch from congrArg RangeKey.start hkey] at hlt
        exact absurd hlt (by decide)

/-- A range that begins after the epoch, and an index that is still being written to. -/
theorem orderRanges_latest_later :
    let later : Instant := ⟨1, 0, 0, by decide, by decide, by decide, by decide, by decide⟩
    let ranges : List IndexRange :=
      [⟨"a_0", .bounded later later (by decide), .epoch, 0, none⟩, .latest "w_0" .epoch]
    LatestFirst (orderRanges ranges) ∧ LatestKept ranges (orderRanges ranges) := by
  intro later ranges
  refine (orderRanges_latest_iff ranges).2.2 ?_
  intro bounded hbounded hfalse
  rcases List.mem_cons.mp hbounded with rfl | hbounded
  · show Instant.epoch < later
    decide
  · obtain rfl := List.mem_singleton.mp hbounded
    cases hfalse

/-- A range that begins before the epoch comes first, and one that begins at the epoch takes the
place of an index with its name. -/
theorem orderRanges_latest_fails :
    let before : Instant := ⟨-1, 0, 0, by decide, by decide, by decide, by decide, by decide⟩
    ∃ early here, IndexRange.bounded "a_0" before before .epoch 0 = .ok early
      ∧ IndexRange.bounded "w_0" .epoch .epoch .epoch 0 = .ok here
      ∧ ¬LatestFirst (orderRanges [early, .latest "w_0" .epoch])
      ∧ ¬LatestKept [here, .latest "w_0" .epoch] (orderRanges [here, .latest "w_0" .epoch]) := by
  intro before
  let early : IndexRange := ⟨"a_0", .bounded before before (by decide), .epoch, 0, none⟩
  let here : IndexRange := ⟨"w_0", .bounded .epoch .epoch (by decide), .epoch, 0, none⟩
  refine ⟨early, here, rfl, rfl, fun hfirst => ?_, fun hkept => ?_⟩
  · have hlater := latestFirst_orderRanges_iff.mp hfirst early (mem_orderRanges_iff.mpr rfl) rfl
      (.latest "w_0" .epoch) (mem_orderRanges_iff.mpr rfl) rfl
    exact absurd hlater (by decide)
  · obtain ⟨first, hfind, htrue⟩ := latestKept_orderRanges_iff.mp hkept (.latest "w_0" .epoch)
      (by simp) rfl
    have hhere : some here = some first := hfind
    obtain rfl := Option.some.inj hhere
    cases htrue

end LogSearch
