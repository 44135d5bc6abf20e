import LogSearch.Cluster.Client
import LogSearch.Command.Arguments
import LogSearch.Index.Table
import LogSearch.Search.Dispatch
import LogSearch.Settings.File
import LogSearch.Time.Keyword

/-!
# Carrying out commands

`Machine.run` carries out a command line and reports how it ended. Whatever a command needs of the
machine it runs on (files, the time, the network) is a `Machine`, over any monad. A command prints
only when it succeeds; one that fails has one message and the status 1, and a command line that is
not understood has the status 2.
-/

namespace LogSearch

/-! ## Reports -/

/-- How the program ends. -/
structure Report where
  status : Nat
  output : String
  failure : Option String
  deriving DecidableEq, Repr

/-- Why a command fails. -/
inductive CommandError where
  | settings (error : SettingsError)
  | logFile (path : String)
  | indexRanges (path : String)
  | output (path : String)
  | search (error : SearchError)
  | backend (error : BackendError)
  deriving DecidableEq, Repr

/-- The text of the error. -/
def CommandError.message : CommandError → String
  | .settings e => e.message
  | .logFile path => "failed to open log file " ++ path
  | .indexRanges path => "failed to load index ranges from " ++ quoted path
  | .output path => "failed to write " ++ quoted path
  | .search e => e.message
  | .backend e => e.message

namespace Report

/-- The report of a success. -/
def success (output : String) : Report := ⟨0, output, none⟩

/-- The report of a command that came to an end. -/
def ofResult : Except CommandError String → Report
  | .ok output => success output
  | .error e => ⟨1, "", some ("Error: " ++ e.message)⟩

/-- The report of a command line that is not carried out. -/
def ofInterruption : Interruption → Report
  | .usage => ⟨2, "", some "error: the command line is not understood"⟩
  | .help => success ("Usage: searchscope [OPTIONS] <COMMAND>\n\nCommands: "
      ++ String.intercalate ", " (CommandForm.all.map CommandForm.name) ++ "\n")
  | .version => success "searchscope 0.1.0\n"

end Report

/-! ## Machines -/

/-- What commands need of the machine that they run on. -/
structure Machine (m : Type → Type) where
  environment : Environment
  now : m Instant
  /-- The text of a file, if it can be read. -/
  fileText : (path : String) → m (Option String)
  /-- Writes a text to a file, and tells whether that went well. -/
  saveFile : (path content : String) → m Bool
  /-- Opens a file for messages, and tells whether that went well. -/
  openLog : (path : String) → m Bool
  transport : Transport m

namespace Machine

variable {m : Type → Type} [Monad m]

/-- Goes on with a value, or fails with an error as the command's own. -/
def expect {ε α : Type} (wrap : ε → CommandError) : Except ε α → ExceptT CommandError m α
  | .ok value => return value
  | .error e => throw (wrap e)

/-- The settings of the file that is asked for, or else of the usual ones. -/
def settings (machine : Machine m) (file : Option String) : ExceptT CommandError m Settings := do
  match file with
  | some path =>
    let content ← machine.fileText path
    expect .settings (Settings.ofFile machine.environment path content)
  | none =>
    let contents ← (Settings.usualPaths machine.environment).mapM fun path => machine.fileText path
    return Settings.ofFiles machine.environment contents

/-- Opens the log file, if there is one. -/
def startLog (machine : Machine m) (settings : Settings) : ExceptT CommandError m Unit := do
  match settings.log.file with
  | none => return
  | some path => unless ← machine.openLog path do throw (.logFile path)

/-- The known index ranges. -/
def rangeTable (machine : Machine m) (settings : Settings) :
    ExceptT CommandError m RangeTable := do
  let path := settings.rangesPath machine.environment
  match (← machine.fileText path).map RangeTable.ofText with
  | some (.ok table) => return table
  | _ => throw (.indexRanges path)

/-! ## Searching -/

/-- What a search command works with. -/
structure Session where
  cluster : Cluster
  searcher : Searcher
  scope : SearchScope

/-- The session of some options. -/
def session (machine : Machine m) (settings : Settings) (options : SharedOptions) :
    ExceptT CommandError m Session := do
  let table ← machine.rangeTable settings
  return {
    cluster := .ofUrl settings.cluster.url
    searcher :=
      { resolver :=
          { ranges := table.lookup
            streams := lookupStream settings.streamList
            readKeyword }
        leadingWildcard := settings.search.leadingWildcard }
    scope := options.scope }

/-- What a cluster answers to a plan; nothing is asked if there is no index. -/
def answer (machine : Machine m) (cluster : Cluster) (plan : SearchPlan) :
    m (Except BackendError (Option SearchResponse)) := do
  if plan.asks then
    return (← (cluster.search plan.request).run machine.transport).map some
  else return .ok none

/-- The structured form of an operation's result, and the metrics after it. -/
def perform {α : Type} (machine : Machine m) (session : Session)
    (fields : α → List (String × Json)) (operation : Operation α) :
    ExceptT CommandError m (Json × Metrics) := do
  let now ← machine.now
  let plan ← expect (.search ∘ PlanFailure.error)
    (session.searcher.plan now session.scope operation.aggregations)
  let response ← machine.answer session.cluster plan
  let result ← expect .search (plan.finish operation response)
  return (result.toJson fields, Metrics.empty.afterSearch (some plan.window))

/-- The structured form of what a search command finds, and the metrics after it. -/
def search (machine : Machine m) (session : Session) :
    SearchCommand → ExceptT CommandError m (Json × Metrics)
  | .indices => do
    let now ← machine.now
    let ranges ← expect .search
      (session.searcher.affectedRanges now session.scope.range session.scope.filter)
    return (.arr (ranges.map fun range => (IndexRecord.ofRange range).toJson), .empty)
  | .count => machine.perform session CountResult.fields Operation.count
  | .terms field size direction =>
    machine.perform session TermsResult.fields (Operation.terms field size direction)
  | .groupedStats keyField valueField size order =>
    machine.perform session GroupedStatsResult.fields
      (Operation.groupedStats keyField valueField order size)
  | .histogram interval =>
    machine.perform session (HistogramResult.fields Json.nat) (Operation.histogram interval)
  | .fieldHistogram field interval full =>
    machine.perform session (HistogramResult.fields BucketStats.toJson)
      (Operation.fieldHistogram field interval full)
  | .fieldStats field =>
    machine.perform session FieldStatsResult.fields (Operation.fieldStats field)

/-! ## Commands -/

/-- What the settings template command prints. -/
def template (machine : Machine m) : (output : Option String) → ExceptT CommandError m String
  | none => return Settings.template
  | some path => do
    unless ← machine.saveFile path Settings.template do throw (.output path)
    return "Config written to " ++ quoted path ++ "\n"

/-- Carries out an exchange with a cluster. -/
def exchange {α : Type} (machine : Machine m) (exchange : Exchange α) :
    ExceptT CommandError m α := do
  expect .backend (← (exchange.run machine.transport : m _))

/-- What the alias command prints: where the alias was is asked first. -/
def cycleAlias (machine : Machine m) (settings : Settings) (name new : String) :
    ExceptT CommandError m String := do
  let cluster := Cluster.ofUrl settings.cluster.url
  let old ← machine.exchange (cluster.aliasTarget name)
  machine.exchange (cluster.cycleAlias name new old)
  return name ++ " -> " ++ new ++ " (was " ++ old.getD "unset" ++ ")\n"

/-- What a command prints. -/
def execute (machine : Machine m) (arguments : Arguments) : ExceptT CommandError m String := do
  match arguments.command with
  | .template output => machine.template output
  | .cycleAlias name new =>
    let settings ← machine.settings arguments.options.settingsFile
    machine.startLog settings
    machine.cycleAlias settings name new
  | .search command =>
    let settings ← machine.settings arguments.options.settingsFile
    machine.startLog settings
    let session ← machine.session settings arguments.options
    let (found, metrics) ← machine.search session command
    return found.pretty ++ "\n" ++ if arguments.options.metrics then metrics.render else ""

/-- Carries out a command line. -/
def run (machine : Machine m) (words : List String) : m Report := do
  match Arguments.ofWords words with
  | .error reason => return .ofInterruption reason
  | .ok arguments => return .ofResult (← machine.execute arguments)

end Machine

end LogSearch
