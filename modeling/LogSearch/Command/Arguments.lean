import LogSearch.Command.Line
import LogSearch.Query.Body
import LogSearch.Search.Scope
import LogSearch.Settings.Basic

/-!
# What a command line asks for

A command line names one command. Some options go with any command and may stand before its name or
after it; one given after it counts. The bounds of an absolute time range come together, and of
absolute bounds, a relative range and a keyword only one kind is given at the same place.
-/

namespace LogSearch

/-! ## Commands -/

/-- Commands that search. -/
inductive SearchCommand where
  /-- The ranges of the indices that would be searched. -/
  | indices
  | count
  | terms (field : String) (size : Nat) (direction : Direction)
  | groupedStats (keyField valueField : String) (size : Nat) (order : RowOrder)
  | histogram (interval : Interval)
  | fieldHistogram (field : String) (interval : Interval) (full : Bool)
  | fieldStats (field : String)
  deriving DecidableEq, Repr

/-- What the program can do. -/
inductive Command where
  | search (command : SearchCommand)
  /-- Moves an alias to a new index. -/
  | cycleAlias (name new : String)
  /-- Writes a settings file to start from, or shows it. -/
  | template (output : Option String)
  deriving DecidableEq, Repr

/-- The options that go with any command. -/
structure SharedOptions where
  settingsFile : Option String
  query : String
  filter : Option String
  start : Option Instant
  stop : Option Instant
  relative : Option Nat
  keyword : Option String
  indices : Option String
  metrics : Bool
  deriving Repr

/-- A command line that is understood. -/
structure Arguments where
  command : Command
  options : SharedOptions
  deriving Repr

namespace SharedOptions

/-- The width of the window that is searched if no time range is given: five minutes. -/
def usualSeconds : UInt64 := 300

/-- The time range that is asked for. -/
def timeRange (options : SharedOptions) : TimeRange :=
  match options.start, options.stop, options.relative, options.keyword with
  | some start, some stop, _, _ => .absolute start stop
  | _, _, some seconds, _ => .relative (.ofNat seconds)
  | _, _, none, some keyword => .keyword keyword
  | _, _, none, none => .relative usualSeconds

/-- What a search covers. -/
def scope (options : SharedOptions) : SearchScope :=
  { query := options.query
    filter := options.filter
    range := options.timeRange
    indices := match options.indices with
      | some names => .pattern names
      | none => .resolve }

end SharedOptions

/-! ## Forms -/

/-- A form whose value can be any text. -/
def textForm (name : String) (letter : Option Char) : OptionForm :=
  ⟨name, letter, .value fun _ => true⟩

/-- A form whose value is read as some type. -/
def readForm {α : Type} (name : String) (letter : Option Char) (read : String → Option α) :
    OptionForm :=
  ⟨name, letter, .value fun text => (read text).isSome⟩

/-- A path that can be the value of an option. -/
def readPath? (text : String) : Option String := if text.isEmpty then none else some text

/-- The options that go with any command. -/
def sharedForms : List OptionForm :=
  [readForm "config" (some 'c') readPath?, textForm "query" (some 'q'), textForm "filter" none,
   readForm "from" none Instant.read?, readForm "to" none Instant.read?,
   readForm "relative" none Settings.readCount?, textForm "keyword" none, textForm "indices" none,
   ⟨"metrics", none, .switch⟩, ⟨"help", some 'h', .help⟩]

/-- The options before the name of a command. -/
def frontForms : List OptionForm := ⟨"version", some 'V', .version⟩ :: sharedForms

/-- The options for the number of rows and their order. -/
def rowForms {α : Type} (readOrder : String → Option α) : List OptionForm :=
  [readForm "size" (some 's') Settings.readCount?, readForm "order" (some 'o') readOrder]

/-- The option for the width of buckets. -/
def intervalForm : OptionForm := readForm "interval" (some 'i') Interval.ofText?

namespace Given

/-- The number of rows. -/
def size? (given : Given) : Option Nat := given.read? "size" 50 Settings.readCount?

/-- The width of buckets. -/
def interval? (given : Given) : Option Interval := given.read? "interval" .hour Interval.ofText?

/-- Whether the time range is given in one way and as a whole. -/
def hasOneRange (given : Given) : Bool :=
  given.has "from" == given.has "to"
    && !(given.has "from" && (given.has "relative" || given.has "keyword"))
    && !(given.has "relative" && given.has "keyword")

end Given

/-- How a command is given after its name: `room` plain words at most, and some options. -/
structure CommandForm where
  name : String
  room : Nat
  options : List OptionForm
  read? : Given → Option Command

namespace CommandForm

/-- A command without plain words. -/
def plain (name : String) (options : List OptionForm) (read : Given → Option Command) :
    CommandForm where
  name := name
  room := 0
  options := options
  read? := read

/-- A search of one field. -/
def ofField (name : String) (options : List OptionForm)
    (read : Given → String → Option SearchCommand) : CommandForm where
  name := name
  room := 1
  options := options
  read? given :=
    match given.words with
    | [field] => (read given field).map .search
    | _ => none

/-- A command with two plain words. -/
def ofPair (name : String) (options : List OptionForm)
    (read : Given → String → String → Option Command) : CommandForm where
  name := name
  room := 2
  options := options
  read? given :=
    match given.words with
    | [first, second] => read given first second
    | _ => none

/-- All commands. -/
def all : List CommandForm :=
  [plain "indices" [] fun _ => some (.search .indices),
   plain "count" [] fun _ => some (.search .count),
   ofField "terms" (rowForms Direction.ofText?) fun given field => do
     return .terms field (← given.size?) (← given.read? "order" .desc Direction.ofText?),
   ofPair "terms-stats" (rowForms RowOrder.ofText?) fun given keyField valueField => do
     let order ← given.read? "order" ⟨.count, .asc⟩ RowOrder.ofText?
     return .search (.groupedStats keyField valueField (← given.size?) order),
   plain "histogram" [intervalForm] fun given =>
     given.interval?.map fun interval => .search (.histogram interval),
   ofField "field-histogram" [intervalForm, ⟨"include-stats", none, .switch⟩] fun given field =>
     given.interval?.map fun interval =>
       .fieldHistogram field interval (given.has "include-stats"),
   ofField "field-stats" [] fun _ field => some (.fieldStats field),
   ofPair "cycle-alias" [] fun _ name new => some (.cycleAlias name new),
   plain "config" [readForm "output" (some 'o') readPath?] fun given =>
     some (.template (given.value? "output"))]

/-- The command with a name. -/
def ofName? (name : String) : Option CommandForm := all.find? fun form => form.name == name

end CommandForm

/-! ## Command lines -/

namespace Arguments

/-- The options that go with any command, from before its name and after it. -/
def sharedOptions (front back : Given) : SharedOptions :=
  let value? (name : String) : Option String := (back.value? name).orElse fun _ => front.value? name
  { settingsFile := value? "config"
    query := (value? "query").getD "*"
    filter := value? "filter"
    start := (value? "from").bind Instant.read?
    stop := (value? "to").bind Instant.read?
    relative := (value? "relative").bind Settings.readCount?
    keyword := value? "keyword"
    indices := value? "indices"
    metrics := (value? "metrics").isSome }

/-- The command line of a command, after its name. -/
def ofForm (form : CommandForm) (front : Given) (words : List String) :
    Except Interruption Arguments := do
  let (back, _) ← Given.scan (sharedForms ++ form.options) (some form.room) .empty words
  match form.read? back with
  | some command =>
    if front.hasOneRange && back.hasOneRange then return ⟨command, sharedOptions front back⟩
    else .error .usage
  | none => .error .usage

/-- What a question for help is answered with; after it only the name of a command may follow. -/
def ofHelp : (words : List String) → Interruption
  | [] => .help
  | [name] => if name = "help" || (CommandForm.ofName? name).isSome then .help else .usage
  | _ => .usage

/-- What a command line asks for. -/
def ofWords (words : List String) : Except Interruption Arguments := do
  let (front, rest) ← Given.scan frontForms none .empty words
  match rest with
  | [] => .error .usage
  | name :: rest =>
    if name = "help" then .error (ofHelp rest)
    else
      match CommandForm.ofName? name with
      | some form => ofForm form front rest
      | none => .error .usage

end Arguments

end LogSearch
