import LogSearch.Proofs.Time.Back

/-!
# How far the last hours and days reach

A relative range of some seconds starts so many before the present instant, but not before the epoch
(`ReachesBack`); `TimeRange.relativeStart` computes that, whether the calendar has an instant so many
seconds before or not (`relativeStart_reachesBack`).

The last hours and days are counted in seconds of 64 bits, and the count starts again where these
end. Main statement: the window of so many hours or days reaches back so far, and no less far than
that of fewer ones, exactly if their seconds fit 64 bits or what is left of them there leads to the
epoch all the same (`TimeRange.resolve_last_iff`). Else the window is too short
(`TimeRange.lastHours_starts_again`).
-/

namespace LogSearch

/-- So many seconds before an instant, or at the epoch if that is later. -/
structure ReachesBack (seconds : Nat) (now start : Instant) : Prop where
  nanos : start.epochNanos = max 0 (now.epochNanos - seconds * nanosPerSecond)
  leap : start.isLeap = false

namespace Instant

variable {t u : Instant}

/-! ## Instants outside leap seconds -/

/-- Outside leap seconds instants are ordered by their nanoseconds since the epoch. -/
theorem le_iff_epochNanos (ht : t.isLeap = false) (hu : u.isLeap = false) :
    t ≤ u ↔ t.epochNanos ≤ u.epochNanos := by
  have ht' : ¬nanosPerSecond ≤ t.nano := fun h => by simp [isLeap, h] at ht
  have hu' : ¬nanosPerSecond ≤ u.nano := fun h => by simp [isLeap, h] at hu
  rw [le_iff_rank, rank_eq_epochSeconds, rank_eq_epochSeconds, epochNanos, epochNanos]
  rw [nanosPerSecond] at *
  omega

/-- The calendar has every instant on the way back to the epoch. -/
theorem exists_addSeconds? {n : Int} (hn : n < 0) (h : 0 ≤ t.epochNanos + n * nanosPerSecond) :
    ∃ start, t.addSeconds? n = some start := by
  have hday := t.day_le
  have hsecond := t.second_lt
  have hnano := t.nano_lt
  have hlow : 0 ≤ t.epochNanos / nanosPerSecond + n := by
    rw [nanosPerSecond] at *
    omega
  have hhigh : t.epochNanos / nanosPerSecond + n < (maxDay + 1) * secondsPerDay := by
    rw [epochNanos, epochSeconds]
    rw [secondsPerDay, nanosPerSecond] at *
    omega
  have hsub : t.subSecond < nanosPerSecond := Nat.mod_lt _ (by decide)
  refine Option.isSome_iff_exists.mp ?_
  rw [addSeconds?_of_neg hn, ofEpoch?, ofParts?, dif_pos]
  · rfl
  · rw [maxDay, secondsPerDay] at *
    rw [minDay]
    rw [nanosPerSecond] at *
    omega

end Instant

/-! ## Relative ranges -/

namespace TimeRange

/-- **A relative range reaches back for its seconds, or to the epoch.** -/
theorem relativeStart_reachesBack {seconds : UInt64} (hne : seconds ≠ 0) (now : Instant) :
    ReachesBack seconds.toNat now (relativeStart seconds now) := by
  have hpos : 0 < seconds.toNat := by
    refine Nat.pos_of_ne_zero fun hzero => hne ?_
    exact UInt64.toNat_inj.mp hzero
  have hneg : -(seconds.toNat : Int) < 0 := by omega
  rw [relativeStart, if_neg hne]
  cases hstart : now.addSeconds? (-(seconds.toNat : Int)) with
  | none =>
    have hbefore : now.epochNanos - seconds.toNat * nanosPerSecond < 0 := by
      by_contra hge
      have hreach : 0 ≤ now.epochNanos + -(seconds.toNat : Int) * nanosPerSecond := by
        rw [Int.neg_mul, ← Int.sub_eq_add_neg]
        exact Int.not_lt.mp hge
      obtain ⟨start, hsome⟩ := Instant.exists_addSeconds? hneg hreach
      rw [hstart] at hsome
      cases hsome
    exact ⟨(Int.max_eq_left (Int.le_of_lt hbefore)).symm, rfl⟩
  | some start =>
    obtain ⟨hnanos, hleap⟩ := (Instant.addSeconds?_eq_some_iff hneg).mp hstart
    rw [Int.neg_mul, ← Int.sub_eq_add_neg] at hnanos
    have hle : start ≤ .epoch ↔ start.epochNanos ≤ 0 := Instant.le_iff_epochNanos hleap rfl
    rw [Option.getD_some, Instant.latest]
    split
    · next h =>
      rw [hle, hnanos] at h
      exact ⟨(Int.max_eq_left h).symm, rfl⟩
    · next h =>
      rw [hle] at h
      exact ⟨by omega, hleap⟩

theorem relativeStart_zero (now : Instant) : relativeStart 0 now = .epoch := if_pos rfl

/-! ## Seconds of 64 bits -/

/-- Whether so many seconds can be counted in 64 bits, or what is left of them there leads to the
epoch all the same. No seconds count as all time. -/
def Fits (seconds : Nat) (now : Instant) : Prop :=
  seconds < 2 ^ 64 ∨ seconds % 2 ^ 64 = 0
    ∨ now.epochNanos ≤ (seconds % 2 ^ 64 : Nat) * nanosPerSecond

/-- What 64 bits count leads before the calendar. -/
theorem epochNanos_lt (now : Instant) : now.epochNanos < (2 ^ 63 : Nat) * nanosPerSecond := by
  have hday := now.day_le
  have hsecond := now.second_lt
  have hnano := now.nano_lt
  rw [Instant.epochNanos, Instant.epochSeconds]
  rw [maxDay] at hday
  rw [secondsPerDay, nanosPerSecond] at *
  omega

/-- The start for so many seconds, counted in 64 bits. -/
theorem relativeStart_ofNat (now : Instant) (seconds : Nat) :
    (relativeStart (.ofNat seconds) now).isLeap = false
      ∧ (relativeStart (.ofNat seconds) now).epochNanos
        = if seconds % 2 ^ 64 = 0 then 0
          else max 0 (now.epochNanos - (seconds % 2 ^ 64 : Nat) * nanosPerSecond) := by
  have hnat : (UInt64.ofNat seconds).toNat = seconds % 2 ^ 64 := UInt64.toNat_ofNat'
  by_cases hzero : UInt64.ofNat seconds = 0
  · have hmod : seconds % 2 ^ 64 = 0 := by rw [← hnat, hzero]; rfl
    rw [hzero, relativeStart_zero, if_pos hmod]
    exact ⟨rfl, rfl⟩
  · have hmod : seconds % 2 ^ 64 ≠ 0 := by
      rw [← hnat]
      exact fun h => hzero (UInt64.toNat_inj.mp h)
    obtain ⟨hnanos, hleap⟩ := relativeStart_reachesBack hzero now
    rw [if_neg hmod, ← hnat]
    exact ⟨hleap, hnanos⟩

/-- **So many seconds are reached back exactly if they fit.** -/
theorem relativeStart_ofNat_iff {seconds : Nat} (hpos : 1 ≤ seconds) (now : Instant) :
    ReachesBack seconds now (relativeStart (.ofNat seconds) now) ↔ Fits seconds now := by
  have hlt := epochNanos_lt now
  obtain ⟨hleap, hnanos⟩ := relativeStart_ofNat now seconds
  have hiff : ReachesBack seconds now (relativeStart (.ofNat seconds) now)
      ↔ (relativeStart (.ofNat seconds) now).epochNanos
        = max 0 (now.epochNanos - seconds * nanosPerSecond) :=
    ⟨fun h => h.nanos, fun h => ⟨h, hleap⟩⟩
  rw [hiff, hnanos, Fits]
  rw [nanosPerSecond] at *
  split <;> omega

/-- As many units as 64 bits have seconds for. -/
theorem exists_units_lt {length : Nat} (hlength : 1 ≤ length) :
    ∃ k, k * length < 2 ^ 64 ∧ 2 ^ 64 ≤ k * length + length := by
  have hdown := Nat.div_mul_le_self (2 ^ 64 - 1) length
  have hup : 2 ^ 64 - 1 < (2 ^ 64 - 1) / length * length + length := Nat.lt_div_mul_add hlength
  exact ⟨(2 ^ 64 - 1) / length, by omega, by omega⟩

/-- **Fewer units start no earlier exactly if the seconds fit.** If they do not, there are fewer units
that lead to the epoch. -/
theorem relativeStart_mono_iff {length : Nat} (hlength : 1 ≤ length) (hshort : length ≤ 2 ^ 32)
    (n : UInt64) (now : Instant) :
    (∀ k : UInt64, 1 ≤ k → k ≤ n → relativeStart (.ofNat (n.toNat * length)) now
        ≤ relativeStart (.ofNat (k.toNat * length)) now)
      ↔ Fits (n.toNat * length) now := by
  have hlt := epochNanos_lt now
  obtain ⟨hleap, hnanos⟩ := relativeStart_ofNat now (n.toNat * length)
  have hle : ∀ seconds,
      relativeStart (.ofNat (n.toNat * length)) now ≤ relativeStart (.ofNat seconds) now
      ↔ (relativeStart (.ofNat (n.toNat * length)) now).epochNanos
        ≤ (relativeStart (.ofNat seconds) now).epochNanos :=
    fun seconds => Instant.le_iff_epochNanos hleap (relativeStart_ofNat now seconds).1
  constructor
  · intro hmono
    by_contra hfits
    obtain ⟨hlarge, hmod, hpast⟩ : 2 ^ 64 ≤ n.toNat * length ∧ n.toNat * length % 2 ^ 64 ≠ 0
        ∧ (n.toNat * length % 2 ^ 64 : Nat) * nanosPerSecond < now.epochNanos := by
      rw [Fits] at hfits
      omega
    -- these lead to the epoch, and they are fewer
    obtain ⟨k, hk, hk'⟩ := exists_units_lt hlength
    have hkpos : 1 ≤ k := by
      refine Nat.pos_of_ne_zero fun hzero => ?_
      rw [hzero] at hk'
      omega
    have hkn : k < n.toNat := Nat.lt_of_mul_lt_mul_right (Nat.lt_of_lt_of_le hk hlarge)
    have hnat : (UInt64.ofNat k).toNat = k :=
      UInt64.toNat_ofNat_of_lt' (Nat.lt_trans hkn n.toNat_lt)
    have hstart := hmono (.ofNat k) (UInt64.le_iff_toNat_le.mpr (hnat.symm ▸ hkpos))
      (UInt64.le_iff_toNat_le.mpr (hnat.symm ▸ Nat.le_of_lt hkn))
    rw [hnat, hle, hnanos, (relativeStart_ofNat now (k * length)).2, if_neg hmod,
      Nat.mod_eq_of_lt hk, if_neg (by omega)] at hstart
    rw [nanosPerSecond] at *
    omega
  · intro hfits k hk hkn
    have hprod : k.toNat * length ≤ n.toNat * length :=
      Nat.mul_le_mul_right length (UInt64.le_iff_toNat_le.mp hkn)
    have hprodpos : 1 ≤ k.toNat * length := Nat.mul_pos (UInt64.le_iff_toNat_le.mp hk) hlength
    rw [hle, hnanos, (relativeStart_ofNat now (k.toNat * length)).2]
    rw [Fits] at hfits
    rw [nanosPerSecond] at *
    split <;> split <;> omega

/-! ## Hours and days -/

/-- The window of so many units that are counted in seconds of 64 bits. -/
theorem resolve_units_iff {units : UInt64 → TimeRange} {length : Nat}
    (hunits : ∀ k, units k = relative (.ofNat (k.toNat * length))) (hlength : 1 ≤ length)
    (hshort : length ≤ 2 ^ 32) (readKeyword : KeywordReader) {n : UInt64} (hn : 1 ≤ n)
    (now : Instant) :
    ∃ first, (units n).resolve readKeyword now = .ok ⟨first, now⟩
      ∧ (ReachesBack (n.toNat * length) now first ↔ Fits (n.toNat * length) now)
      ∧ ((∀ k start, 1 ≤ k → k ≤ n →
          (units k).resolve readKeyword now = .ok ⟨start, now⟩ → first ≤ start)
        ↔ Fits (n.toNat * length) now) := by
  have hresolve : ∀ k, (units k).resolve readKeyword now
      = .ok ⟨relativeStart (.ofNat (k.toNat * length)) now, now⟩ := by
    intro k
    rw [hunits, resolve]
  have hpos : 1 ≤ n.toNat * length := Nat.mul_pos (UInt64.le_iff_toNat_le.mp hn) hlength
  refine ⟨_, hresolve n, relativeStart_ofNat_iff hpos now, ?_⟩
  rw [← relativeStart_mono_iff hlength hshort n now]
  constructor
  · intro h k hk hkn
    exact h k _ hk hkn (hresolve k)
  · intro h k start hk hkn hstart
    rw [hresolve] at hstart
    obtain rfl := (Window.mk.inj (Except.ok.inj hstart)).1
    exact h k hk hkn

theorem lastHours_eq (n : UInt64) : lastHours n = relative (.ofNat (n.toNat * 3600)) := by
  rw [lastHours, UInt64.ofNat_mul, UInt64.ofNat_toNat]
  rfl

theorem lastDays_eq (n : UInt64) : lastDays n = relative (.ofNat (n.toNat * 86400)) := by
  rw [lastDays, lastHours, UInt64.ofNat_mul, UInt64.ofNat_toNat, UInt64.mul_assoc]
  rfl

/-- **How far the last hours and days reach.** So many hours are reached back exactly if their seconds
fit, and exactly then fewer of them start no earlier; days likewise. -/
theorem resolve_last_iff (readKeyword : KeywordReader) {n : UInt64} (hn : 1 ≤ n) (now : Instant) :
    ∃ hours days, (lastHours n).resolve readKeyword now = .ok ⟨hours, now⟩
      ∧ (lastDays n).resolve readKeyword now = .ok ⟨days, now⟩
      ∧ (ReachesBack (n.toNat * 3600) now hours ↔ Fits (n.toNat * 3600) now)
      ∧ (ReachesBack (n.toNat * 86400) now days ↔ Fits (n.toNat * 86400) now)
      ∧ ((∀ k start, 1 ≤ k → k ≤ n →
          (lastHours k).resolve readKeyword now = .ok ⟨start, now⟩ → hours ≤ start)
        ↔ Fits (n.toNat * 3600) now)
      ∧ ((∀ k start, 1 ≤ k → k ≤ n →
          (lastDays k).resolve readKeyword now = .ok ⟨start, now⟩ → days ≤ start)
        ↔ Fits (n.toNat * 86400) now) := by
  obtain ⟨hours, hresolve, hreach, hmono⟩ :=
    resolve_units_iff lastHours_eq (by decide) (by decide) readKeyword hn now
  obtain ⟨days, hresolve', hreach', hmono'⟩ :=
    resolve_units_iff lastDays_eq (by decide) (by decide) readKeyword hn now
  exact ⟨hours, days, hresolve, hresolve', hreach, hreach', hmono, hmono'⟩

/-- From the second day of 2015, an hour back and a day back. -/
theorem resolve_last_iff_one :
    let now : Instant := ⟨16437, 0, 0, by decide, by decide, by decide, by decide, by decide⟩
    ∃ hours days, (lastHours 1).resolve readKeyword now = .ok ⟨hours, now⟩
      ∧ (lastDays 1).resolve readKeyword now = .ok ⟨days, now⟩
      ∧ ReachesBack 3600 now hours ∧ ReachesBack 86400 now days := by
  intro now
  obtain ⟨hours, days, hresolve, hresolve', hreach, hreach', -⟩ :=
    resolve_last_iff readKeyword (n := 1) (by decide) now
  exact ⟨hours, days, hresolve, hresolve', hreach.mpr (.inl (by decide)),
    hreach'.mpr (.inl (by decide))⟩

/-- So many hours that their seconds start again in 64 bits reach back less than one, and so many days
less than one day. -/
theorem lastHours_starts_again :
    let now : Instant := ⟨16437, 0, 0, by decide, by decide, by decide, by decide, by decide⟩
    let hours : Instant :=
      ⟨16436, 82816, 0, by decide, by decide, by decide, by decide, by decide⟩
    let days : Instant := ⟨16436, 384, 0, by decide, by decide, by decide, by decide, by decide⟩
    (lastHours 5124095576030432).resolve readKeyword now = .ok ⟨hours, now⟩
      ∧ (lastDays 5124095576030432).resolve readKeyword now = .ok ⟨days, now⟩
      ∧ ¬ReachesBack (5124095576030432 * 3600) now hours
      ∧ ¬ReachesBack (5124095576030432 * 86400) now days
      ∧ relativeStart 3600 now < hours ∧ relativeStart 86400 now < days := by
  intro now hours days
  refine ⟨by decide, by decide, fun h => ?_, fun h => ?_, by decide, by decide⟩
  · exact absurd h.nanos (by decide)
  · exact absurd h.nanos (by decide)

end TimeRange

end LogSearch
