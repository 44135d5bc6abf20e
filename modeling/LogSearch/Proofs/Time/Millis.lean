import LogSearch.Proofs.Time.Order
import LogSearch.Proofs.Time.Stamp

/-!
# Whole milliseconds

What a stamp keeps of an instant is the last whole millisecond that is not after it
(`Instant.le_wholeMillis_iff`); a leap second has its milliseconds too. So cutting keeps the order,
and whole milliseconds are compared with an instant as with what is kept of it.

Main statement: stamps are read back as the instants cut to milliseconds, in the same order
(`Instant.readStamp?_stamp_ordered`). The texts themselves are not in order: years before 0 and
after 9999 are written with a sign.
-/

namespace LogSearch

namespace Instant

variable {t u : Instant}

theorem wholeMillis_le (t : Instant) : t.wholeMillis ≤ t := by
  rw [le_iff_rank]
  simp only [rank, wholeMillis]
  omega

/-- The cut instant is the last of the whole milliseconds that are not after the instant. -/
theorem le_wholeMillis_iff (ht : t.nano % 1000000 = 0) : t ≤ u.wholeMillis ↔ t ≤ u := by
  rw [le_iff_rank, le_iff_rank]
  simp only [rank, wholeMillis, nanosPerSecond]
  omega

/-- Cutting to milliseconds keeps the order. -/
theorem wholeMillis_mono (h : t ≤ u) : t.wholeMillis ≤ u.wholeMillis :=
  (le_wholeMillis_iff (Nat.mul_mod_left _ _)).mpr (le_trans t.wholeMillis_le h)

/-- **Stamps are read back**, as the instants cut to whole milliseconds and in the same order. -/
theorem readStamp?_stamp_ordered :
    (∀ t : Instant, readStamp? t.stamp = some t.wholeMillis)
      ∧ ∀ t u : Instant, t ≤ u → ∀ t' ∈ readStamp? t.stamp, ∀ u' ∈ readStamp? u.stamp, t' ≤ u' := by
  refine ⟨readStamp?_stamp, fun t u h t' ht u' hu => ?_⟩
  rw [readStamp?_stamp, Option.mem_some_iff] at ht hu
  rw [← ht, ← hu]
  exact wholeMillis_mono h

/-- A leap second at the end of the last year before 0, and the start of year 0. -/
theorem readStamp?_stamp_ordered_leapSecond :
    let t : Instant :=
      ⟨-719529, 86399, 1999999999, by decide, by decide, by decide, by decide, by decide⟩
    let t' : Instant :=
      ⟨-719529, 86399, 1999000000, by decide, by decide, by decide, by decide, by decide⟩
    let u : Instant := ⟨-719528, 0, 1, by decide, by decide, by decide, by decide, by decide⟩
    let u' : Instant := ⟨-719528, 0, 0, by decide, by decide, by decide, by decide, by decide⟩
    t.stamp = "-0001-12-31 23:59:60.999" ∧ readStamp? t.stamp = some t'
      ∧ u.stamp = "0000-01-01 00:00:00.000" ∧ readStamp? u.stamp = some u'
      ∧ t ≤ u ∧ t' ≤ u' := by
  intro t t' u u'
  obtain ⟨hread, hordered⟩ := readStamp?_stamp_ordered
  have hcut : t.wholeMillis = t' ∧ u.wholeMillis = u' := by decide
  have ht : readStamp? t.stamp = some t' := hcut.1 ▸ hread t
  have hu : readStamp? u.stamp = some u' := hcut.2 ▸ hread u
  have hle : t ≤ u := by decide
  exact ⟨by decide +kernel, ht, by decide +kernel, hu, hle, hordered t u hle t' ht u' hu⟩

end Instant

end LogSearch
