import LogSearch.Text.Blank
import LogSearch.Text.Hexadecimal

/-!
# Streams and index sets

Documents are routed into streams, and every stream writes to the indices of one index set: those
named by a stem, an underscore and a number. A filter may name a stream by a *marker*, the text
`streams:` followed by hexadecimal digits; `markedStream?` finds the stream's id. A marker stands at
the start of the filter, or after some text that ends in a character that is no ASCII letter or
digit; of several the last counts. The text before that character lies on one line and is not empty.
-/

namespace LogSearch

/-- The indices of a stream, named by a common stem. -/
structure IndexSet where
  stem : String
  deriving DecidableEq, Repr

/-- Whether an index belongs to the set: the stem, an underscore and at least one digit. -/
def IndexSet.manages (set : IndexSet) (index : String) : Bool :=
  match stripFront? (set.stem.toList ++ ['_']) index.toList with
  | some number => !number.isEmpty && number.all Char.isDigit
  | none => false

/-- A stream. -/
structure Stream where
  id : String
  title : String
  indexSet : IndexSet
  deriving DecidableEq, Repr

/-- No stream has the id. -/
inductive StreamError where
  | notFound (id : String)
  deriving DecidableEq, Repr

/-- The text of the error. -/
def StreamError.message : StreamError → String
  | .notFound id => "Stream not found: " ++ id

/-- A source of streams by id. -/
abbrev StreamLookup := String → Except StreamError Stream

/-- The stream with an id in a list; of several the last. -/
def lookupStream (streams : List Stream) : StreamLookup := fun id =>
  match streams.reverse.find? fun stream => stream.id == id with
  | some stream => .ok stream
  | none => .error (.notFound id)

/-! ## Markers -/

/-- The id of a marker at the front of a text. -/
def markerAt? (cs : List Char) : Option (List Char) :=
  match stripFront? "streams:".toList cs with
  | none => none
  | some rest =>
    let id := rest.takeWhile isHexDigit
    if id.isEmpty then none else some id

/-- The id of the last marker in a text that follows at least one character. -/
def markerAfter? : List Char → Option (List Char)
  | [] => none
  | c :: rest =>
    let later := if c = '\n' then none else markerAfter? rest
    later <|> if c.isAlphanum then none else markerAt? rest

/-- The id of the stream that a filter names. -/
def markedStream? (filter : String) : Option String :=
  let cs := filter.toList
  let later := match cs with
    | [] => none
    | c :: rest => if c = '\n' then none else markerAfter? rest
  (later <|> markerAt? cs).map String.ofList

end LogSearch
