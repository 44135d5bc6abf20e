import LogSearch.Search.View
import LogSearch.Store.Aggregation

/-!
# Reading statistics back

The store writes statistics as structured data and a search reads them from there. What is read is
what was computed, except that a number that is not finite has no written form: it comes back as
missing, and a sum of that kind as zero (`Moments.view`).
-/

namespace LogSearch

/-! ## Numbers -/

/-- What structured data keeps of a number. -/
def Binary64.finite? (x : Binary64) : Option Binary64 := if x.isFinite then some x else none

namespace Slot

theorem nullable_float (x : Binary64) :
    nullable Json.toBinary64? (Json.float x) = some x.finite? := by
  rw [Json.float, Binary64.finite?]
  cases x.isFinite <;> rfl

theorem nullable_numberOrNull (x : Option Binary64) :
    nullable Json.toBinary64? (Moments.numberOrNull x) = some (x.bind Binary64.finite?) := by
  cases x with
  | none => rfl
  | some x => exact nullable_float x

end Slot

theorem Json.toNat?_nat (n : Nat) : (Json.nat n).toNat? = some n := by
  simp [Json.nat, Json.toNat?, JsonNumber.toNat?]

theorem StatsView.sumOfJson?_float (x : Binary64) :
    sumOfJson? (Json.float x) = some (x.finite?.getD (.zero false)) := by
  rw [sumOfJson?, Slot.nullable_float, Option.map_some]

/-! ## Results under their names -/

section

variable {α : Type} {read : Json → Option α} {name : String} {json : Json} {result : α}

theorem aggregationResult_eq_ok {fields : List (String × Json)}
    (hget : Keyed.get? name fields = some json) (hread : read json = some result) :
    aggregationResult read (some (.obj fields)) name = .ok result := by
  have hfound : (some (Json.obj fields)).bind (fun results => results.get? name) = some json := hget
  rw [aggregationResult, hfound]
  simp only [hread]

theorem Bucket.inner_eq_ok {bucket : Bucket} (hget : Keyed.get? name bucket.rest = some json)
    (hread : read json = some result) : bucket.inner read name = .ok result := by
  rw [inner, hget]
  simp only [hread]

end

/-! ## Moments -/

namespace Moments

theorem count_of (xs : List Binary64) : (of xs).count = xs.length := by
  have hfold : ∀ m : Moments, (xs.foldl add m).count = m.count + xs.length := by
    induction xs with
    | nil => exact fun _ => rfl
    | cons x xs ih =>
      intro m
      have hadd : (m.add x).count = m.count + 1 := rfl
      rw [List.foldl_cons, ih, List.length_cons, hadd]
      omega
  rw [of, hfold, empty, Nat.zero_add]

/-- The simple statistics that are read back. -/
def view (m : Moments) : StatsView :=
  { count := m.count
    least := m.least.bind Binary64.finite?
    greatest := m.greatest.bind Binary64.finite?
    mean := m.mean.bind Binary64.finite?
    sum := m.sum.finite?.getD (.zero false) }

/-- All statistics that are read back. -/
def extendedView (m : Moments) : ExtendedStatsView :=
  { stats := m.view
    sumOfSquares := (if 0 < m.count then some m.sumOfSquares else none).bind Binary64.finite?
    variance := m.variance.bind Binary64.finite?
    deviation := (m.variance.map Binary64.sqrt).bind Binary64.finite? }

theorem ofSlots?_view (m : Moments) :
    StatsView.ofSlots?
        [.given (.nat m.count), .given (numberOrNull m.least), .given (numberOrNull m.greatest),
          .given (numberOrNull m.mean), .given (.float m.sum)]
      = some m.view := by
  simp only [StatsView.ofSlots?, Slot.required, Slot.optional, Slot.orElse, Json.toNat?_nat,
    Slot.nullable_numberOrNull, StatsView.sumOfJson?_float]
  rfl

/-- **Simple statistics are read back.** -/
theorem ofJson?_stats (m : Moments) : StatsView.ofJson? m.stats = some m.view := by
  rw [← ofSlots?_view]
  rfl

/-- **All statistics are read back.** -/
theorem ofJson?_extendedStats (m : Moments) :
    ExtendedStatsView.ofJson? m.extendedStats = some m.extendedView := by
  have hstats : (m.extendedStats.namedSlots StatsView.fieldNames).bind StatsView.ofSlots?
      = some m.view := ofSlots?_view m
  have hothers : m.extendedStats.namedSlots ["sum_of_squares", "variance", "std_deviation"]
      = some [.given (numberOrNull (if 0 < m.count then some m.sumOfSquares else none)),
        .given (numberOrNull m.variance), .given (numberOrNull (m.variance.map Binary64.sqrt))] :=
    rfl
  rw [ExtendedStatsView.ofJson?, hstats, hothers]
  simp only [Option.bind_eq_bind, Option.bind_some, Slot.optional, Slot.nullable_numberOrNull]
  rfl

end Moments

end LogSearch
