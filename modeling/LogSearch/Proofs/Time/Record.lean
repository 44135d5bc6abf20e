import LogSearch.Proofs.Time.Stamp

/-!
# Instants of records read back

Records write as many decimals of a second as are needed, in groups of three, and `Z` at the end.
Nothing is cut off, so the lenient reader gives back the instant itself, leap seconds and years of
any size included.

Main statement: `Instant.read?_render`.
-/

namespace LogSearch

open TimeText

namespace Instant

/-- The decimals are those of the nanoseconds within the second. -/
theorem fraction?_fractionText (t : Instant) :
    fraction? (t.fractionText ++ ['Z']) = some (t.subSecond, ['Z']) := by
  have hlt : t.subSecond < 1000000000 := by
    simp only [subSecond, nanosPerSecond]
    omega
  have hstop : ∀ c ∈ ['Z'].head?, c.isDigit = false := by simp
  rw [fractionText]
  split
  · next hzero =>
    rw [hzero]
    rfl
  · split
    · next hmillis =>
      rw [List.cons_append, fraction?_padded (by decide) (by decide) (by omega) hstop]
      have hwhole : t.subSecond / 1000000 * 1000000 = t.subSecond := by omega
      exact congrArg (fun n => some (n, ['Z'])) hwhole
    · split
      · next hmicros =>
        rw [List.cons_append, fraction?_padded (by decide) (by decide) (by omega) hstop]
        have hwhole : t.subSecond / 1000 * 1000 = t.subSecond := by omega
        exact congrArg (fun n => some (n, ['Z'])) hwhole
      · rw [List.cons_append, fraction?_padded (by decide) (by decide) (by omega) hstop]
        exact congrArg (fun n => some (n, ['Z'])) (Nat.mul_one t.subSecond)

/-- **The form of records gives back the instant that it was written for.** -/
theorem read?_render (t : Instant) : read? t.render = some t := by
  have hgap : ∀ c cs, isBlank c = false → trimFront (c :: cs) = c :: cs := fun _ _ => trimFront_cons
  have htext : t.dateText ++ 'T' :: t.clockText ++ t.fractionText ++ ['Z']
      = t.dateText ++ ('T' :: (t.clockText ++ (t.fractionText ++ ['Z']))) := by simp
  have hseparator : ∀ cs, separator? ('T' :: cs) = some cs := fun _ => rfl
  have hzone : looseZone? (trimFront ['Z']) = some (0, []) := by decide
  rw [read?, render, String.toList_ofList, htext, readChars?, date?_dateText hgap]
  simp only [Option.bind_eq_bind, Option.bind_some, hseparator]
  rw [clock?_clockText hgap, Option.bind_some]
  simp only
  rw [fraction?_fractionText, Option.bind_some]
  simp only
  rw [hzone, Option.bind_some]
  exact instant?_shown t

end Instant

end LogSearch
