import LogSearch.Settings.Basic
import LogSearch.Text.Quoted
import LogSearch.Toml.Document

/-!
# Settings files

A settings file is a TOML document. `Settings.ofFile` reads a given one, which must be there and
hold together; `Settings.ofFiles` tries the usual places in turn and passes over what cannot be
used. The environment overrides both, and stands alone if there is no file. `Settings.template` is
a file to start from: it says what holds anyway.
-/

namespace LogSearch

/-- Why a settings file cannot be used. -/
inductive SettingsError where
  /-- There is no text under the path. -/
  | unreadable (path : String)
  /-- The text is no document, or a field in it has the wrong type. -/
  | malformed (path : String)
  deriving DecidableEq, Repr

/-- The text of the error. -/
def SettingsError.message : SettingsError → String
  | .unreadable path => "Failed to read config file " ++ quoted path
  | .malformed path => "Failed to parse config file " ++ quoted path

namespace Settings

/-- The settings that the text of a file gives. -/
def ofText? (env : Environment) (text : String) : Option Settings :=
  ((Toml.parse? text).bind (ofJson? env)).map (override env)

/-- The settings of the file at a path, whose text is missing if it cannot be read. -/
def ofFile (env : Environment) (path : String) (content : Option String) :
    Except SettingsError Settings :=
  match content with
  | none => .error (.unreadable path)
  | some text =>
    match ofText? env text with
    | none => .error (.malformed path)
    | some settings => .ok settings

/-- The settings without a file. -/
def ofEnvironment (env : Environment) : Settings := (Settings.default env).override env

/-- The usual places of a settings file, best first. -/
def usualPaths (env : Environment) : List String :=
  ((userDirectory env "XDG_CONFIG_HOME" ".config").map fun directory =>
      joinPath (joinPath directory "searchscope") "config.toml").toList
    ++ ["/etc/searchscope/config.toml", "./searchscope.toml"]

/-- The settings of the first text that gives some, or else those without a file. -/
def ofFiles (env : Environment) (contents : List (Option String)) : Settings :=
  (contents.findSome? fun content => content.bind (ofText? env)).getD (ofEnvironment env)

/-! ## A file to start from -/

/-- The lines of a file to start from. -/
def templateLines : List String :=
  ["# Searchscope Configuration",
   "#",
   "# Environment variables override these settings:",
   "# - SEARCHSCOPE_ES_URL",
   "# - SEARCHSCOPE_REQUEST_TIMEOUT_SECS",
   "# - SEARCHSCOPE_LOG_LEVEL",
   "# - SEARCHSCOPE_LOG_FORMAT",
   "",
   "[elasticsearch]",
   "# Cluster URL",
   "url = \"http://localhost:9200\"",
   "",
   "# Request timeout in seconds",
   "request_timeout_secs = 60",
   "",
   "[search]",
   "# Allow query strings starting with a wildcard (expensive)",
   "allow_leading_wildcard = false",
   "",
   "# JSON file with index range records",
   "ranges_file = \"~/.local/share/searchscope/ranges.json\"",
   "",
   "# Streams restrict searches to their index set",
   "# [[streams]]",
   "# id = \"000000000000000000000001\"",
   "# title = \"All messages\"",
   "# index_prefix = \"graylog\"",
   "",
   "[logging]",
   "# Log level: trace, debug, info, warn, error",
   "level = \"info\"",
   "",
   "# Log format: pretty (for development) or json (for production)",
   "format = \"pretty\"",
   "",
   "# Optional log file path",
   "# file = \"/var/log/searchscope/searchscope.log\""]

/-- A file to start from. -/
def template : String := String.join (templateLines.map (· ++ "\n"))

end Settings

end LogSearch
