import LogSearch.Proofs.Time.Bucket
import LogSearch.Time.Keyword

/-!
# Windows in order

The window of a time range is made in one of two ways. For two instants and for an expression in
words `Window.ofBounds` makes it, which refuses an end before the start (`readKeyword_ordered`). The
window of a relative range ends at the present instant and starts so many seconds before, but not
before the epoch (`TimeRange.relativeStart_bounds`), and its ends are not compared.

Main statement: a window that a time range has is in order, except that of a relative range at an
instant before the epoch (`TimeRange.resolve_ordered_iff`).
-/

namespace LogSearch

/-! ## Moving by seconds -/

namespace Instant

variable {t u : Instant} {n : Int}

/-- Seconds are added to the seconds since the epoch; on the way back out of a leap second the first
of them leaves it. -/
theorem addSeconds?_eq_some (hne : n ≠ 0) (h : t.addSeconds? n = some u) :
    u.epochSeconds = t.epochSeconds + n + (if t.isLeap && n < 0 then 1 else 0)
      ∧ u.nano = t.subSecond := by
  have hlt := t.nano_lt
  rw [addSeconds?, if_neg hne] at h
  obtain ⟨hday, hsecond, hnano⟩ := ofParts?_eq_some h
  constructor
  · rw [epochSeconds, hday, hsecond, epochSeconds]
    simp only [secondsPerDay]
    split <;> omega
  · rw [hnano, subSecond]
    split
    · next hleap =>
      have hge : nanosPerSecond ≤ t.nano := of_decide_eq_true hleap
      rw [nanosPerSecond] at *
      omega
    · next hleap =>
      have hless : ¬nanosPerSecond ≤ t.nano := fun hge => hleap (decide_eq_true hge)
      rw [nanosPerSecond] at *
      omega

theorem rank_eq_epochSeconds (t : Instant) :
    t.rank = t.epochSeconds * (2 * nanosPerSecond : Nat) + t.nano := rfl

/-- Moving back leads to nothing later. -/
theorem addSeconds?_le (hn : n ≤ 0) (h : t.addSeconds? n = some u) : u ≤ t := by
  rw [le_iff_rank]
  by_cases hzero : n = 0
  · rw [addSeconds?, if_pos hzero] at h
    rw [Option.some.inj h]
  · obtain ⟨hseconds, hnano⟩ := addSeconds?_eq_some hzero h
    rw [rank_eq_epochSeconds, rank_eq_epochSeconds, hseconds, hnano, subSecond]
    simp only [nanosPerSecond]
    cases hleap : t.isLeap with
    | true =>
      -- the second that is given back is paid for by the nanoseconds of the leap second
      have hge : 1000000000 ≤ t.nano := of_decide_eq_true hleap
      split <;> omega
    | false =>
      simp only [Bool.false_and, Bool.false_eq_true, if_false]
      omega

end Instant

/-! ## Windows with compared ends -/

theorem Window.ofBounds_ordered {start stop : Instant} {w : Window}
    (h : Window.ofBounds start stop = .ok w) : w.start ≤ w.stop := by
  rw [ofBounds] at h
  split at h
  · next hle =>
    obtain rfl := Except.ok.inj h
    exact hle
  · cases h

/-- Every expression has its window made of two instants that are compared. -/
theorem Keyword.window_ordered {keyword : Keyword} {now : Instant} {w : Window}
    (h : keyword.window now = some (.ok w)) : w.start ≤ w.stop := by
  cases keyword with
  | back amount unit =>
    obtain ⟨start, -, hw⟩ := Option.map_eq_some_iff.mp h
    exact Window.ofBounds_ordered hw
  | today => exact Window.ofBounds_ordered (Option.some.inj h)
  | yesterday =>
    rw [window] at h
    split at h
    · cases h
    · exact Window.ofBounds_ordered (Option.some.inj h)
  | since start => exact Window.ofBounds_ordered (Option.some.inj h)
  | between start stop => exact Window.ofBounds_ordered (Option.some.inj h)

theorem readKeyword_ordered {text : String} {now : Instant} {w : Window}
    (h : readKeyword text now = .ok w) : w.start ≤ w.stop := by
  rw [readKeyword] at h
  split at h
  · cases h
  · next keyword rest _ =>
    split at h
    · cases hwindow : keyword.window now with
      | none =>
        rw [hwindow] at h
        cases h
      | some result =>
        rw [hwindow] at h
        obtain rfl : result = .ok w := h
        exact Keyword.window_ordered hwindow
    · cases h

/-! ## Relative ranges -/

namespace TimeRange

variable {now : Instant}

/-- A relative range starts at the epoch or later, and not after the present instant unless that is
before the epoch. -/
theorem relativeStart_bounds (seconds : UInt64) (now : Instant) :
    .epoch ≤ relativeStart seconds now ∧ relativeStart seconds now ≤ now.latest .epoch := by
  simp only [Instant.le_iff_rank, Instant.rank_latest, relativeStart]
  split
  · omega
  · cases hstart : now.addSeconds? (-(seconds.toNat : Int)) with
    | none =>
      simp only [Option.getD_none, Instant.rank_latest]
      omega
    | some start =>
      have hle := Instant.le_iff_rank.mp (Instant.addSeconds?_le (by omega) hstart)
      simp only [Option.getD_some, Instant.rank_latest]
      omega

/-- Before the epoch a relative range has a window all the same, and it is reversed. -/
theorem resolve_relative_of_lt (readKeyword : KeywordReader) (seconds : UInt64)
    (h : now < .epoch) :
    (relative seconds).resolve readKeyword now = .ok ⟨.epoch, now⟩ := by
  obtain ⟨hge, hle⟩ := relativeStart_bounds seconds now
  have hstart : relativeStart seconds now = .epoch := by
    refine Instant.rank_injective ?_
    rw [Instant.le_iff_rank, Instant.rank_latest] at hle
    rw [Instant.le_iff_rank] at hge
    rw [Instant.lt_iff_rank] at h
    omega
  rw [resolve, hstart]

/-- **When the window of a time range is in order**: always, except for a relative range at an
instant before the epoch. -/
theorem resolve_ordered_iff {range : TimeRange} {w : Window}
    (h : range.resolve readKeyword now = .ok w) :
    w.start ≤ w.stop ↔ ∀ seconds, range = .relative seconds → .epoch ≤ now := by
  cases range with
  | absolute start stop =>
    exact ⟨nofun, fun _ => Window.ofBounds_ordered h⟩
  | keyword text =>
    exact ⟨nofun, fun _ => readKeyword_ordered h⟩
  | relative seconds =>
    obtain rfl := Except.ok.inj h
    obtain ⟨hge, hle⟩ := relativeStart_bounds seconds now
    constructor
    · intro hordered _ _
      exact Instant.le_trans hge hordered
    · intro hnow
      have hepoch := hnow seconds rfl
      rw [Instant.le_iff_rank] at hepoch ⊢
      rw [Instant.le_iff_rank, Instant.rank_latest] at hle
      exact Int.le_trans hle (Int.max_le.mpr ⟨Int.le_refl _, hepoch⟩)

/-- A second back out of a leap second. -/
theorem resolve_ordered_iff_leapSecond :
    let start : Instant :=
      ⟨17166, 86399, 500000000, by decide, by decide, by decide, by decide, by decide⟩
    let now : Instant :=
      ⟨17166, 86399, 1500000000, by decide, by decide, by decide, by decide, by decide⟩
    (relative 1).resolve readKeyword now = .ok ⟨start, now⟩ ∧ start ≤ now := by
  intro start now
  have hwindow : (relative 1).resolve readKeyword now = .ok ⟨start, now⟩ := by decide
  exact ⟨hwindow, (resolve_ordered_iff hwindow).mpr fun _ _ => by decide⟩

/-- All time up to an instant before the epoch is a window from the epoch back to it. -/
theorem resolve_relative_reversed :
    let now : Instant := ⟨-1, 0, 0, by decide, by decide, by decide, by decide, by decide⟩
    ∃ w, (relative 0).resolve readKeyword now = .ok w ∧ ¬w.start ≤ w.stop := by
  intro now
  exact ⟨⟨.epoch, now⟩, resolve_relative_of_lt readKeyword 0 (by decide), by decide⟩

end TimeRange

end LogSearch
