import LogSearch.Index.Stream
import LogSearch.Json.Record

/-!
# Settings

What can be configured: the cluster, searches, streams and logging. Everything has a default. A
settings file is read as structured data (`Settings.ofJson?`); some settings can be overridden by
environment variables (`Settings.override`). Directories come from the environment too.
-/

namespace LogSearch

/-- Gives the value of an environment variable. -/
abbrev Environment := String → Option String

/-! ## Paths -/

/-- A path below another; an absolute path stands for itself. -/
def joinPath (base rest : String) : String :=
  if rest.toList.head? = some '/' then rest
  else if base.isEmpty || base.toList.getLast? == some '/' then base ++ rest
  else base ++ "/" ++ rest

/-- The user's home directory. -/
def homeDirectory (env : Environment) : Option String :=
  match env "HOME" with
  | some home => if home.isEmpty then none else some home
  | none => none

/-- A directory that a variable names by an absolute path, or else one below the home directory. -/
def userDirectory (env : Environment) (key fallback : String) : Option String :=
  match (env key).filter fun path => path.toList.head? == some '/' with
  | some path => some path
  | none => (homeDirectory env).map fun home => joinPath home fallback

/-! ## Parts -/

/-- Where the cluster is. -/
structure ClusterSettings where
  url : String
  timeoutSeconds : Nat
  deriving DecidableEq, Repr

/-- How searches are made. -/
structure SearchSettings where
  leadingWildcard : Bool
  rangesFile : String
  deriving DecidableEq, Repr

/-- A stream and the stem of its indices. -/
structure StreamSettings where
  id : String
  title : String
  indexStem : String
  deriving DecidableEq, Repr

/-- How messages are logged. -/
structure LogSettings where
  level : String
  format : String
  file : Option String
  deriving DecidableEq, Repr

/-- All settings. -/
structure Settings where
  cluster : ClusterSettings
  search : SearchSettings
  streams : List StreamSettings
  log : LogSettings
  deriving DecidableEq, Repr

/-! ## Defaults -/

/-- The cluster on this machine. -/
def ClusterSettings.default : ClusterSettings :=
  { url := "http://localhost:9200", timeoutSeconds := 60 }

/-- The usual place of the file with index ranges. -/
def defaultRangesFile (env : Environment) : String :=
  match userDirectory env "XDG_DATA_HOME" ".local/share" with
  | some directory => joinPath (joinPath directory "searchscope") "ranges.json"
  | none => "./ranges.json"

/-- Searches without wildcards in front. -/
def SearchSettings.default (env : Environment) : SearchSettings :=
  { leadingWildcard := false, rangesFile := defaultRangesFile env }

/-- Readable messages of the usual level. -/
def LogSettings.default : LogSettings := { level := "info", format := "pretty", file := none }

/-- Settings without a file. -/
def Settings.default (env : Environment) : Settings :=
  { cluster := .default, search := .default env, streams := [], log := .default }

/-! ## Reading -/

/-- Cluster settings out of a record. -/
def ClusterSettings.ofJson? (json : Json) : Option ClusterSettings := do
  let [url, timeout] ← json.leadingSlots ["url", "request_timeout_secs"] | none
  return ⟨← url.orElse ClusterSettings.default.url Json.toText?,
    ← timeout.orElse ClusterSettings.default.timeoutSeconds Json.toNat?⟩

/-- Search settings out of a record. -/
def SearchSettings.ofJson? (env : Environment) (json : Json) : Option SearchSettings := do
  let [wildcard, file] ← json.leadingSlots ["allow_leading_wildcard", "ranges_file"] | none
  return ⟨← wildcard.orElse false Json.toBool?,
    ← file.orElse (defaultRangesFile env) Json.toText?⟩

namespace StreamSettings

/-- The fields of a stream. -/
def fieldNames : List String := ["id", "title", "index_prefix"]

/-- A stream out of its fields. -/
def ofSlots? : List Slot → Option StreamSettings
  | [id, title, stem] => do
    return ⟨← id.required Json.toText?, ← title.orElse "" Json.toText?,
      ← stem.required Json.toText?⟩
  | _ => none

/-- A stream out of a record. -/
def ofJson? (json : Json) : Option StreamSettings := (json.slots fieldNames).bind ofSlots?

/-- A stream out of a record of a settings file. -/
def ofEntry? (json : Json) : Option StreamSettings := (json.leadingSlots fieldNames).bind ofSlots?

end StreamSettings

/-- Log settings out of a record. -/
def LogSettings.ofJson? (json : Json) : Option LogSettings := do
  let [level, format, file] ← json.leadingSlots ["level", "format", "file"] | none
  return ⟨← level.orElse LogSettings.default.level Json.toText?,
    ← format.orElse LogSettings.default.format Json.toText?,
    ← file.optional Json.toText?⟩

namespace Settings

/-- Settings out of a record. -/
def ofJson? (env : Environment) (json : Json) : Option Settings := do
  let [cluster, search, streams, log] ←
    json.namedSlots ["elasticsearch", "search", "streams", "logging"] | none
  return {
    cluster := ← cluster.orElse .default ClusterSettings.ofJson?
    search := ← search.orElse (.default env) (SearchSettings.ofJson? env)
    streams := ← streams.orElse [] (Json.toList? StreamSettings.ofEntry?)
    log := ← log.orElse .default LogSettings.ofJson? }

/-! ## Overriding -/

/-- The variables that settings depend on. -/
def variableNames : List String :=
  ["HOME", "XDG_CONFIG_HOME", "XDG_DATA_HOME", "SEARCHSCOPE_ES_URL",
   "SEARCHSCOPE_REQUEST_TIMEOUT_SECS", "SEARCHSCOPE_LOG_LEVEL", "SEARCHSCOPE_LOG_FORMAT"]

/-- A number of 64 bits in digits, with a plus sign or without. -/
def readCount? (text : String) : Option Nat :=
  let digits := match text.toList with
    | '+' :: rest => rest
    | rest => rest
  if digits.isEmpty || !digits.all Char.isDigit then none
  else
    let n := natOfDigits 0 digits
    if n < 0x10000000000000000 then some n else none

/-- Settings with the environment's variables put over them; a timeout that is no number is passed
over. -/
def override (env : Environment) (settings : Settings) : Settings :=
  { settings with
    cluster :=
      { url := (env "SEARCHSCOPE_ES_URL").getD settings.cluster.url
        timeoutSeconds := ((env "SEARCHSCOPE_REQUEST_TIMEOUT_SECS").bind readCount?).getD
          settings.cluster.timeoutSeconds }
    log :=
      { settings.log with
        level := (env "SEARCHSCOPE_LOG_LEVEL").getD settings.log.level
        format := (env "SEARCHSCOPE_LOG_FORMAT").getD settings.log.format } }

/-! ## Use -/

/-- The file with index ranges; `~/` at its start is the home directory. -/
def rangesPath (env : Environment) (settings : Settings) : String :=
  match stripFront? ['~', '/'] settings.search.rangesFile.toList, homeDirectory env with
  | some rest, some home => joinPath home (String.ofList rest)
  | _, _ => settings.search.rangesFile

/-- The configured streams. -/
def streamList (settings : Settings) : List Stream :=
  settings.streams.map fun s => { id := s.id, title := s.title, indexSet := ⟨s.indexStem⟩ }

end Settings

end LogSearch
