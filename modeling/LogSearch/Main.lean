import LogSearch.Command.Run
import Std.Time.DateTime.Timestamp

/-!
# The program

The real machine: its files, clock and environment. It has no network, so every cluster is out of
reach.
-/

namespace LogSearch

/-- The time now. -/
def currentInstant : IO Instant := do
  let since := (← Std.Time.Timestamp.now).val
  return (Instant.ofEpoch? since.second.val since.nano.val.toNat).getD .epoch

/-- Tells whether an action on files goes well. -/
def succeeds (action : IO Unit) : IO Bool := do
  try
    action
    return true
  catch _ => return false

/-- The text of a file, if it can be read. -/
def fileText (path : String) : IO (Option String) := do
  try
    return some (← IO.FS.readFile path)
  catch _ => return none

/-- The variables of the environment that settings come from. -/
def currentEnvironment : IO Environment := do
  let values ← Settings.variableNames.mapM fun key => return (key, ← IO.getEnv key)
  return fun key => (List.lookup key values).join

/-- The machine that the program runs on. -/
def currentMachine : IO (Machine IO) := do
  return {
    environment := ← currentEnvironment
    now := currentInstant
    fileText := fileText
    saveFile := fun path content => succeeds (IO.FS.writeFile path content)
    openLog := fun path => succeeds do discard (IO.FS.Handle.mk path .append)
    transport := fun request => return unreachable request }

end LogSearch

def main (words : List String) : IO UInt32 := do
  let report ← (← LogSearch.currentMachine).run words
  IO.print report.output
  match report.failure with
  | some message => IO.eprintln message
  | none => pure ()
  return .ofNat report.status
