import LogSearch.Index.Order
import LogSearch.Index.Stream
import LogSearch.Index.Table

/-!
# Which indices a search touches

A `Resolver` turns a time range and a filter into index ranges: the range becomes a window, the
lookup selects the ranges of the window, a stream named by the filter keeps those of its index set,
and the rest is put in order. The lookup is asked before the stream.
-/

namespace LogSearch

/-- Where a resolver gets its facts from. -/
structure Resolver where
  ranges : RangeLookup
  streams : StreamLookup
  readKeyword : KeywordReader

/-- Why the indices of a search are not known. -/
inductive ResolveError where
  | timeRange (error : TimeRangeError)
  | indexRange (error : IndexRangeError)
  | stream (error : StreamError)
  deriving DecidableEq, Repr

/-- The text of the error. -/
def ResolveError.message : ResolveError → String
  | .timeRange e => e.message
  | .indexRange e => e.message
  | .stream e => e.message

namespace Resolver

/-- The window of a time range at an instant. -/
def window (resolver : Resolver) (now : Instant) (range : TimeRange) :
    Except TimeRangeError Window :=
  range.resolve resolver.readKeyword now

/-- The ranges of a window that a filter leaves, in order. -/
def rangesOf (resolver : Resolver) (w : Window) (filter : Option String) :
    Except ResolveError (List IndexRange) :=
  match resolver.ranges w with
  | .error e => .error (.indexRange e)
  | .ok found =>
    match filter.bind markedStream? with
    | none => .ok (orderRanges found)
    | some id =>
      match resolver.streams id with
      | .error e => .error (.stream e)
      | .ok stream =>
        .ok (orderRanges (found.filter fun range => stream.indexSet.manages range.name))

/-- The ranges of a time range that a filter leaves, in order. -/
def resolve (resolver : Resolver) (now : Instant) (range : TimeRange) (filter : Option String) :
    Except ResolveError (List IndexRange) :=
  match resolver.window now range with
  | .error e => .error (.timeRange e)
  | .ok w => resolver.rangesOf w filter

end Resolver

end LogSearch
