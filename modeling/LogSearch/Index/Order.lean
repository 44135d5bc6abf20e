import LogSearch.Index.Range

/-!
# The order of index ranges

Ranges are searched in the order of their start, and of their names where they start together.
An index that is being written to counts as starting at the epoch. Of several ranges with the same
start and name only the first is kept.
-/

namespace LogSearch

/-- What ranges are ordered by. -/
structure RangeKey where
  start : Instant
  name : String
  deriving DecidableEq

/-- The key of a range. -/
def IndexRange.key (range : IndexRange) : RangeKey := ⟨range.start, range.name⟩

namespace RangeKey

/-- By start, then by name. -/
def cmp (a b : RangeKey) : Ordering := (a.start.cmp b.start).then (compare a.name b.name)

/-- Not after. -/
def le (a b : RangeKey) : Bool := a.cmp b != .gt

end RangeKey

/-- The ranges after `last` in a sorted list, without those that repeat the key before them. -/
def dropRepeats (last : IndexRange) : List IndexRange → List IndexRange
  | [] => []
  | range :: rest =>
    if range.key = last.key then dropRepeats last rest else range :: dropRepeats range rest

/-- Ranges in ascending order of their keys, each key once. -/
def orderRanges (ranges : List IndexRange) : List IndexRange :=
  match ranges.mergeSort fun a b => a.key.le b.key with
  | [] => []
  | first :: rest => first :: dropRepeats first rest

end LogSearch
