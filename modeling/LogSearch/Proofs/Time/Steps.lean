import Mathlib
import LogSearch.Proofs.Time.Tiling

/-!
# From start to start

Stepping from the start of a bucket to the next goes through all starts on the way: it does not pass
one over (`Chain.mem_of_le`), and before a later start there is always a next one
(`IsStart.exists_next?`). So steps from one start lead to every later one, and after at least a
minute each.
-/

namespace LogSearch

namespace Instant

variable {t u v : Instant}

theorem lt_iff_compare : t < u ↔ compare t u = .lt := beq_iff_eq

theorem le_antisymm (h : t ≤ u) (h' : u ≤ t) : t = u := by
  rw [le_iff_rank] at *
  exact rank_injective (by omega)

theorem not_lt_iff : ¬t < u ↔ u ≤ t := by
  rw [lt_iff_rank, le_iff_rank]
  omega

theorem lt_of_lt_of_le (h : t < u) (h' : u ≤ v) : t < v := by
  rw [lt_iff_rank, le_iff_rank] at *
  omega

theorem le_of_lt (h : t < u) : t ≤ u := by
  rw [lt_iff_rank] at h
  rw [le_iff_rank]
  omega

theorem le_refl (t : Instant) : t ≤ t := le_iff_rank.mpr (Int.le_refl _)

theorem lt_of_le_of_ne (h : t ≤ u) (hne : t ≠ u) : t < u := by
  rw [← Decidable.not_not (p := t < u), not_lt_iff]
  exact fun hge => hne (le_antisymm h hge)

/-- A second between two others of the calendar has a start. -/
theorem ofEpoch?_isSome {second : Int} (h : t.epochSeconds ≤ second)
    (h' : second ≤ u.epochSeconds) : (ofEpoch? second 0).isSome := by
  have hmin := t.day_ge
  have hmax := u.day_le
  rw [← t.epochSeconds_div] at hmin
  rw [← u.epochSeconds_div] at hmax
  have hlow : t.epochSeconds / (secondsPerDay : Nat) ≤ second / (secondsPerDay : Nat) :=
    Int.ediv_le_ediv (by decide) h
  have hhigh : second / (secondsPerDay : Nat) ≤ u.epochSeconds / (secondsPerDay : Nat) :=
    Int.ediv_le_ediv (by decide) h'
  refine ofParts?_isSome (hmin.trans hlow) (hhigh.trans hmax) ?_ (by decide)
    fun hleap => absurd hleap (by decide)
  simp only [secondsPerDay]
  omega

end Instant

namespace Interval

variable {interval : Interval} {first next last other : Instant} {starts : List Instant}

/-- A bucket takes a minute at least. -/
theorem add_sixty_le_nextSecond {second : Int} (h : interval.startSecond second = second) :
    second + 60 ≤ interval.nextSecond second := by
  have hlt := lt_nextSecond h
  obtain ⟨length, hlength, -, hnext⟩ | ⟨hstart, hnext⟩ := interval.startSecond_cases
  · rw [hnext]
    omega
  · rw [hstart] at h
    rw [hnext] at *
    simp only [secondsPerDay] at *
    omega

/-- **Before a later start there is a next one.** -/
theorem IsStart.exists_next? (h : interval.IsStart first) (hlast : interval.IsStart last)
    (hlt : first < last) :
    ∃ next, interval.next? first = some next ∧ next ≤ last := by
  obtain ⟨hnano, hstart⟩ := isStart_iff.mp h
  obtain ⟨hnano', hstart'⟩ := isStart_iff.mp hlast
  rw [Instant.lt_iff_epochSeconds hnano'] at hlt
  -- the later start is not in the bucket of the earlier
  have hle : interval.nextSecond first.epochSeconds ≤ last.epochSeconds := by
    by_contra hnot
    have hsame := (startSecond_eq_iff hstart last.epochSeconds).mpr ⟨by omega, by omega⟩
    omega
  obtain ⟨next, hnext⟩ := Option.isSome_iff_exists.mp
    (Instant.ofEpoch?_isSome (Int.le_of_lt (lt_nextSecond hstart)) hle)
  refine ⟨next, by rw [next?_eq h, hnext], ?_⟩
  obtain ⟨hnano'', hsecond⟩ := Instant.ofEpoch?_eq_some hnext
  rw [Instant.le_iff_epochSeconds hnano'', hsecond]
  exact hle

/-- The next start is later, by a minute at least. -/
theorem IsStart.lt_next (h : interval.IsStart first) (hnext : interval.next? first = some next) :
    first < next ∧ first.epochSeconds + 60 ≤ next.epochSeconds := by
  obtain ⟨hstart, hsecond⟩ := h.of_next? hnext
  have hminute := add_sixty_le_nextSecond (isStart_iff.mp h).2
  rw [Instant.lt_iff_epochSeconds (isStart_iff.mp hstart).1, hsecond]
  omega

/-- Each start is followed by the next one. -/
abbrev Chain (interval : Interval) (starts : List Instant) : Prop :=
  starts.IsChain fun a b => interval.next? a = some b

/-- **What follows a start step by step** are starts, in ascending order. -/
theorem Chain.ascending (h : interval.Chain (first :: starts)) (hfirst : interval.IsStart first) :
    (first :: starts).Pairwise (· < ·) := by
  induction starts generalizing first with
  | nil => exact List.pairwise_singleton _ _
  | cons next starts ih =>
    obtain ⟨hnext, hrest⟩ := List.isChain_cons_cons.mp h
    have hascending := ih hrest (hfirst.of_next? hnext).1
    have hlt := (hfirst.lt_next hnext).1
    refine List.pairwise_cons.mpr ⟨fun later hlater => ?_, hascending⟩
    rcases List.mem_cons.mp hlater with rfl | hlater
    · exact hlt
    · exact Instant.lt_of_lt_of_le hlt
        (Instant.le_of_lt ((List.pairwise_cons.mp hascending).1 later hlater))

/-- **Stepping passes over no start.** -/
theorem Chain.mem_of_le (h : interval.Chain (first :: starts)) (hfirst : interval.IsStart first)
    (hother : interval.IsStart other) (hle : first ≤ other)
    (hlast : ∀ last ∈ (first :: starts).getLast?, other ≤ last) : other ∈ first :: starts := by
  induction starts generalizing first with
  | nil => exact List.mem_singleton.mpr (Instant.le_antisymm (hlast first rfl) hle)
  | cons next starts ih =>
    obtain ⟨hnext, hrest⟩ := List.isChain_cons_cons.mp h
    by_cases heq : other = first
    · exact heq ▸ List.mem_cons_self
    · have hlt := Instant.lt_of_le_of_ne hle (Ne.symm heq)
      obtain ⟨found, hfound, hwithin⟩ := hfirst.exists_next? hother hlt
      obtain rfl := Option.some.inj (hnext.symm.trans hfound)
      exact List.mem_cons_of_mem _ (ih hrest (hfirst.of_next? hnext).1 hwithin
        fun last hmem => hlast last (by rwa [List.getLast?_cons_cons]))

end Interval

end LogSearch
