import LogSearch.Json.Basic

/-!
# Statistics of numbers

`Moments` collects count, extremes, sum and sum of squares in one pass, in the order of the numbers;
mean and variance are computed from them at the end. Both kinds of variance are cut off below at
zero, where rounding could take them.
-/

namespace LogSearch

/-- Count, extremes, sum and sum of squares of some numbers. -/
structure Moments where
  count : Nat
  least : Option Binary64
  greatest : Option Binary64
  sum : Binary64
  sumOfSquares : Binary64
  deriving DecidableEq, Repr

namespace Moments

/-- The moments of no numbers. -/
def empty : Moments :=
  { count := 0, least := none, greatest := none, sum := .zero false, sumOfSquares := .zero false }

/-- The moments with one more number. -/
def add (m : Moments) (x : Binary64) : Moments :=
  { count := m.count + 1
    least := some (match m.least with | some y => y.least x | none => x)
    greatest := some (match m.greatest with | some y => y.greatest x | none => x)
    sum := m.sum.add x
    sumOfSquares := m.sumOfSquares.add (x.mul x) }

/-- The moments of some numbers. -/
def of (xs : List Binary64) : Moments := xs.foldl add empty

/-- The mean, if there are numbers. -/
def mean (m : Moments) : Option Binary64 :=
  if 0 < m.count then some (m.sum.div (.ofNat m.count)) else none

/-- The mean square distance from the mean. -/
def variance (m : Moments) : Option Binary64 :=
  m.mean.map fun mean =>
    ((m.sumOfSquares.div (.ofNat m.count)).sub (mean.mul mean)).clampPositive

/-- The same for a sample, which one number does not make. -/
def sampleVariance (m : Moments) : Option Binary64 :=
  if 1 < m.count then
    let n := Binary64.ofNat m.count
    some (((m.sumOfSquares.sub ((m.sum.mul m.sum).div n)).div (n.sub (.ofNat 1))).clampPositive)
  else none

/-- A number that may be missing, as structured data. -/
def numberOrNull (x : Option Binary64) : Json := Json.ofOption Json.float x

/-- The simple statistics, as structured data. -/
def stats (m : Moments) : Json :=
  .obj
    [("avg", numberOrNull m.mean), ("count", .nat m.count), ("max", numberOrNull m.greatest),
     ("min", numberOrNull m.least), ("sum", .float m.sum)]

/-- Two standard deviations around the mean. -/
def deviationBounds (m : Moments) : Json :=
  let deviation := m.variance.map fun v => (Binary64.ofNat 2).mul v.sqrt
  .obj
    [("lower", numberOrNull (m.mean.bind fun mean => deviation.map fun d => mean.sub d)),
     ("upper", numberOrNull (m.mean.bind fun mean => deviation.map fun d => mean.add d))]

/-- All statistics, as structured data. -/
def extendedStats (m : Moments) : Json :=
  let deviation := numberOrNull (m.variance.map Binary64.sqrt)
  .obj
    [("avg", numberOrNull m.mean), ("count", .nat m.count), ("max", numberOrNull m.greatest),
     ("min", numberOrNull m.least), ("std_deviation", deviation),
     ("std_deviation_bounds", m.deviationBounds), ("std_deviation_population", deviation),
     ("std_deviation_sampling", numberOrNull (m.sampleVariance.map Binary64.sqrt)),
     ("sum", .float m.sum),
     ("sum_of_squares", numberOrNull (if 0 < m.count then some m.sumOfSquares else none)),
     ("variance", numberOrNull m.variance), ("variance_population", numberOrNull m.variance),
     ("variance_sampling", numberOrNull m.sampleVariance)]

end Moments

end LogSearch
