import DashQuery.Command.Run

/-!
# The program

The outer layer of the command line: it fetches the environment and the text of the settings file,
and shows the report of the run.
-/

namespace DashQuery.Program

/-- The text of a file; `none` if there is no file at the path. -/
def readFile? (path : String) : IO (Option String) := do
  try
    return some (← IO.FS.readFile path)
  catch
    | .noFileOrDirectory .. => return none
    | .inappropriateType .. => return none
    | e => throw e

/-- The text of the file found first from a directory upwards; the list holds the names of the
directory from the inside out. -/
def findUpwards? (path : String) : List String → IO (Option String)
  | [] => readFile? ("/" ++ path)
  | name :: outer => do
    match ← readFile? ("/" ++ "/".intercalate (name :: outer).reverse ++ "/" ++ path) with
    | some text => return some text
    | none => findUpwards? path outer

/-- The text of the file that a path given in the working directory leads to. -/
def findFile? (path : String) : IO (Option String) := do
  if path.toList.head? = some '/' then readFile? path
  else findUpwards? path ((Text.pieces '/' (← IO.currentDir).toString).filter (· != "")).reverse

/-- The variables of the environment. -/
def environment : IO (List (String × String)) := do
  let text ← IO.FS.readFile "/proc/self/environ"
  return (Text.pieces '\x00' text).filterMap fun entry =>
    (Text.cut? '=' entry.toList).map fun (name, value) => (String.ofList name, String.ofList value)

/-- The line that shows an event. -/
def eventLine (e : Log.Event) : String := e.level.name ++ " " ++ String.ofList e.shown

/-- How the program is used. -/
def usageLines : List String :=
  ["Usage: dashconv [--config <PATH>] [-v|--verbose] [-q|--quiet] <COMMAND>",
   "",
   "Commands:",
   "  convert [--json] <QUERIES>...  Convert queries to PromQL",
   "  config [--json]                Show the rules and labels in effect",
   "  validate                       Report the problems of the rules",
   "  version                        Show the version"]

end DashQuery.Program

open DashQuery DashQuery.Program in
/-- Runs the command line and returns its exit code. -/
def main (args : List String) : IO UInt32 := do
  let vars ← environment
  let text? ← match Command.Invocation.ofArguments args with
    | .ok invocation => findFile? invocation.settingsPath
    | .error .version => pure none
    | .error .help =>
      usageLines.forM fun line => IO.println line
      pure none
    | .error .usage =>
      usageLines.forM fun line => IO.eprintln line
      pure none
  let report := Command.report args (fun _ => text?) vars
  report.events.forM fun e => IO.eprintln (eventLine e)
  IO.print report.stdout
  match report.failure? with
  | some failure => IO.eprintln ("Error: " ++ failure.message)
  | none => pure ()
  return report.exitCode.toUInt32
