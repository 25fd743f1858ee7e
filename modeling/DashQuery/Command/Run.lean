import DashQuery.Command.Arguments
import DashQuery.Conversion
import DashQuery.Json.Printer
import DashQuery.Settings.Load

/-!
# Running a command

A run is a function of the arguments, the text of the settings file and the environment.  It ends
with an exit code, what is printed, what is reported, and the cause if it fails.
-/

namespace DashQuery.Command

/-- Why a command fails. -/
inductive Failure where
  | loading
  /-- The environment has a text that would be cut inside a character. -/
  | splitCharacter
  | compiling
  | validating
  | nothingConverted (queries : Nat)
  deriving DecidableEq, Repr

/-- The wording of a failure. -/
def Failure.message : Failure → String
  | loading => "Failed to load configuration"
  | splitCharacter => "A quoted text of the environment would be cut inside a character"
  | compiling => "Failed to compile metric type rules"
  | validating => "Metric type rules do not compile"
  | nothingConverted queries =>
    "None of the " ++ Nat.repr queries ++ " queries could be converted"

/-- The exit code of a failure; a text that cannot be cut breaks the run off. -/
def Failure.exitCode : Failure → Nat
  | splitCharacter => 101
  | _ => 1

/-- The failure of a run whose settings cannot be loaded. -/
def Failure.ofLoadError : Settings.LoadError → Failure
  | .splitCharacter => splitCharacter
  | .malformedFile | .wrongShape => loading

/-- The result of a command: the lines printed, the events in order, and the failure if it fails. -/
structure Outcome where
  lines : List String
  events : List Log.Event
  failure? : Option Failure
  deriving DecidableEq, Repr

namespace Outcome

/-- A command that succeeds. -/
def success (lines : List String) (events : List Log.Event) : Outcome := ⟨lines, events, none⟩

/-- A command that fails prints nothing. -/
def failed (failure : Failure) (events : List Log.Event) : Outcome := ⟨[], events, some failure⟩

/-- The text printed. -/
def stdout (o : Outcome) : String := String.join (o.lines.map (· ++ "\n"))

/-- The exit code of a command whose arguments are well formed. -/
def exitCode (o : Outcome) : Nat := (o.failure?.map Failure.exitCode).getD 0

/-- The outcome with events in front of its own. -/
def after (events : List Log.Event) (o : Outcome) : Outcome :=
  { o with events := events ++ o.events }

end Outcome

/-- The name and version of the program. -/
def versionText : String := "dashconv 0.1.0"

/-- The version with that of the toolchain. -/
def longVersionText : String := versionText ++ " (1.88.0)"

/-! ## The subcommands -/

/-- A conversion as a value. -/
def convertedValue (c : Converted) : Value :=
  .table [("query", .text c.query), ("promql", .text c.promql), ("display_name", .text c.title)]

/-- The line that shows a conversion. -/
def convertedLine (c : Converted) : String := c.title ++ "\t" ++ c.promql

/-- The lines that show conversions. -/
def convertedLines (json : Bool) (cs : List Converted) : List String :=
  if json then [Json.render (.list (cs.map convertedValue))] else cs.map convertedLine

/-- Converts queries; at least one of them must be a query. -/
def convert (settings : Settings) (queries : List String) (json : Bool) : Outcome :=
  match Converter.ofSettings settings with
  | .error _ => .failed .compiling []
  | .ok (converter, events) =>
    let (converted, more) := converter.convertAll queries
    if converted.isEmpty then .failed (.nothingConverted queries.length) (events ++ more)
    else
      let partly : List Log.Event :=
        if converted.length < queries.length then
          [.partlyConverted converted.length queries.length]
        else []
      .success (convertedLines json converted) (events ++ more ++ partly)

/-- A text filled up with spaces at its front. -/
def padLeft (width : Nat) (text : String) : String :=
  String.ofList (List.replicate (width - text.length) ' ') ++ text

/-- A text filled up with spaces at its end. -/
def padRight (width : Nat) (text : String) : String :=
  text ++ String.ofList (List.replicate (width - text.length) ' ')

/-- The line that shows a rule at a position. -/
def ruleLine (rule : Metric.Rule) (position : Nat) : String :=
  "  " ++ padLeft 2 (Nat.repr position) ++ ". " ++ padRight 10 rule.kind.name ++ " " ++ rule.pattern

/-- The line that shows an entry of the label table. -/
def labelLine (entry : String × String) : String := "  " ++ entry.1 ++ " -> " ++ entry.2

/-- The lines that show settings. -/
def settingsLines (settings : Settings) : List String :=
  "Metric type rules (first match wins):" ::
    (settings.rules.zipIdx 1).map (fun (rule, position) => ruleLine rule position) ++
    "Attribute mappings:" :: settings.labels.sorted.map labelLine

/-- Shows the settings. -/
def showSettings (settings : Settings) (json : Bool) : Outcome :=
  .success (if json then [Json.render settings.toValue] else settingsLines settings) []

/-- Checks the rules and shows their problems. -/
def validate (settings : Settings) : Outcome :=
  match Metric.RuleTable.compile settings.rules with
  | .error _ => .failed .validating [.validating]
  | .ok table =>
    .success (table.warnings.map fun w => "warning: " ++ w.message)
      [.validating, .validated table.size settings.labels.size table.warnings.length]

/-- What is reported before the settings are loaded. -/
def loadingEvents (config? : Option String) : List Log.Event :=
  match config? with
  | some path => [.loading path]
  | none => []

/-- The path of the settings file. -/
def Invocation.settingsPath (i : Invocation) : String := i.config?.getD Settings.defaultPath

/-- Runs a subcommand with the text of the settings file, if there is one, and the environment. -/
def Invocation.run (i : Invocation) (text? : Option String) (vars : List (String × String)) :
    Outcome :=
  if i.subcommand = .version then .success [longVersionText] []
  else
    let events := loadingEvents i.config?
    match Settings.load (.ofPath i.settingsPath) text? vars with
    | .error e => .failed (.ofLoadError e) events
    | .ok settings =>
      match i.subcommand with
      | .convert => (convert settings i.queries i.json).after events
      | .config => (showSettings settings i.json).after events
      | .validate => (validate settings).after events
      | .version => .success [longVersionText] []

/-! ## What is shown of the events -/

/-- The rank of the least serious level shown that a name stands for, `off` showing none. -/
def rankOfName (name : String) : Nat :=
  let lower := String.ofList (name.toList.map Char.toLower)
  match [("off", 0), ("0", 0), ("error", 1), ("", 1), ("1", 1), ("warn", 2), ("2", 2), ("info", 3),
    ("3", 3), ("debug", 4), ("4", 4), ("trace", 5), ("5", 5)].lookup lower with
  | some rank => rank
  | none => 0

/-- The rank of the least serious level shown: a variable that names one goes first, then `--quiet`,
then `--verbose`. -/
def Invocation.shownRank (i : Invocation) (vars : List (String × String)) : Nat :=
  match vars.lookup "RUST_LOG" with
  | some name => rankOfName name
  | none =>
    if i.quiet then Log.Level.warn.rank
    else if i.verbose then Log.Level.debug.rank
    else Log.Level.info.rank

/-- The events that are shown. -/
def Invocation.shownEvents (i : Invocation) (vars : List (String × String)) (o : Outcome) :
    List Log.Event :=
  o.events.filter fun e => e.level.rank ≤ i.shownRank vars

/-- What a command line leaves behind. -/
structure Report where
  exitCode : Nat
  stdout : String
  events : List Log.Event
  failure? : Option Failure
  deriving DecidableEq, Repr

/-- The result of a command line, where `read` finds the text of a settings file by its path. -/
def report (args : List String) (read : String → Option String)
    (vars : List (String × String)) : Report :=
  match Invocation.ofArguments args with
  | .error .usage => ⟨2, "", [], none⟩
  | .error .help => ⟨0, "", [], none⟩
  | .error .version => ⟨0, versionText ++ "\n", [], none⟩
  | .ok i =>
    let o := i.run (read i.settingsPath) vars
    ⟨o.exitCode, o.stdout, i.shownEvents vars o, o.failure?⟩

end DashQuery.Command
