import LogSearch.Keyed
import LogSearch.Store.Document
import LogSearch.Time.Interval

/-!
# Grouping by time

Documents are grouped by the interval that the time of a field lies in; those without a time are
left out. `Histogram.groups` gives the groups in the order of time, and `Histogram.filled` puts in
the empty ones between the first and the last.

A bucket takes at least a minute, so there are no more starts between two instants than minutes;
`Histogram.startsAfter` counts down from there.
-/

namespace LogSearch.Histogram

/-- Documents by the start of their bucket, in ascending order. -/
abbrev Groups := List (Instant × List Document)

/-- Puts a document into the group of its time, if it has one. -/
def put (field : String) (interval : Interval) (groups : Groups) (document : Document) :
    Except BackendError Groups :=
  match document.time? field with
  | none => .ok groups
  | some t =>
    match interval.truncate? t with
    | none => .error .calendarEnd
    | some start => .ok (Keyed.update start [] (· ++ [document]) groups)

/-- The groups of documents by the time of a field. -/
def groups (field : String) (interval : Interval) (documents : List Document) :
    Except BackendError Groups :=
  documents.foldlM (put field interval) []

/-- The starts after an instant and before another, at most `count`. -/
def startsAfter (interval : Interval) (last : Instant) : (count : Nat) → Instant → List Instant
  | 0, _ => []
  | count + 1, start =>
    match interval.next? start with
    | none => []
    | some next => if next < last then next :: startsAfter interval last count next else []

/-- The starts between two instants. -/
def startsBetween (interval : Interval) (first last : Instant) : List Instant :=
  startsAfter interval last ((last.epochSeconds - first.epochSeconds) / 60 + 1).toNat first

/-- Groups with an empty group at every start that has none. -/
def withStarts : List Instant → Groups → Groups
  | [], groups => groups
  | start :: starts, [] => (start, []) :: withStarts starts []
  | start :: starts, (t, members) :: groups =>
    match start.cmp t with
    | .lt => (start, []) :: withStarts starts ((t, members) :: groups)
    | .eq => withStarts starts ((t, members) :: groups)
    | .gt => (t, members) :: withStarts (start :: starts) groups
termination_by starts groups => starts.length + groups.length

/-- Groups with the empty ones between the first and the last. -/
def filled (interval : Interval) (groups : Groups) : Groups :=
  match groups.head?, groups.getLast? with
  | some (first, _), some (last, _) => withStarts (startsBetween interval first last) groups
  | _, _ => groups

end LogSearch.Histogram
