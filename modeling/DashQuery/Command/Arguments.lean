import DashQuery.Text.Scan

/-!
# Arguments

The arguments name a subcommand, with options in front of it or behind it.  They are read one at a
time by a machine.  An option may occur once in front of the subcommand and once behind it, and what
is behind it counts.  After `--` nothing is an option, and after `help` everything is part of what
help is asked about.
-/

namespace DashQuery.Command

/-- The subcommands. -/
inductive Subcommand where
  | convert
  | config
  | validate
  | version
  deriving DecidableEq, Repr

namespace Subcommand

/-- The written name of a subcommand. -/
def name : Subcommand → String
  | convert => "convert"
  | config => "config"
  | validate => "validate"
  | version => "version"

/-- The subcommand with the given name. -/
def ofName? (text : String) : Option Subcommand :=
  [convert, config, validate, version].find? (·.name = text)

/-- Whether the output of a subcommand can be JSON. -/
def hasJson : Subcommand → Bool
  | convert => true
  | config => true
  | validate => false
  | version => false

end Subcommand

/-- Whether there is help about what follows `help`: nothing, a subcommand or `help` itself. -/
def hasHelp : List String → Bool
  | [] => true
  | [topic] => topic = "help" || (Subcommand.ofName? topic).isSome
  | _ => false

/-- The options given on one side of the subcommand. -/
structure Options where
  config? : Option String
  verbose : Bool
  quiet : Bool
  json : Bool
  deriving DecidableEq, Repr

/-- No options. -/
def Options.none : Options := ⟨Option.none, false, false, false⟩

/-- Why reading the arguments ends early. -/
inductive Stop where
  /-- The arguments are not well formed. -/
  | usage
  /-- The user asks for help. -/
  | help
  /-- The user asks for the version. -/
  | version
  deriving DecidableEq, Repr

/-- What has been read of the arguments. -/
structure State where
  /-- The options in front of the subcommand. -/
  front : Options
  subcommand? : Option Subcommand
  /-- The options behind the subcommand. -/
  back : Options
  /-- Whether the next argument is the path of an option. -/
  awaitsPath : Bool
  /-- Whether nothing can be an option any more. -/
  ended : Bool
  /-- The queries, the last one first. -/
  queries : List String
  /-- What help is asked about, the last argument first, once help is asked for. -/
  topics? : Option (List String)
  deriving DecidableEq, Repr

namespace State

/-- The state before the first argument. -/
def start : State := ⟨.none, none, .none, false, false, [], none⟩

/-- The options on the side of the subcommand that is being read. -/
def options (s : State) : Options := if s.subcommand?.isSome then s.back else s.front

/-- The state with other options on the side that is being read. -/
def withOptions (s : State) (o : Options) : State :=
  if s.subcommand?.isSome then { s with back := o } else { s with front := o }

/-- The state after a path; a second one on the same side is refused, and an empty one. -/
def setPath (s : State) (path : String) : Except Stop State :=
  if path = "" ∨ s.options.config?.isSome then .error .usage
  else .ok { s.withOptions { s.options with config? := some path } with awaitsPath := false }

/-- The state after `--verbose`. -/
def setVerbose (s : State) : Except Stop State :=
  if s.options.verbose then .error .usage
  else .ok (s.withOptions { s.options with verbose := true })

/-- The state after `--quiet`. -/
def setQuiet (s : State) : Except Stop State :=
  if s.options.quiet then .error .usage
  else .ok (s.withOptions { s.options with quiet := true })

/-- The state after `--json`, which only some subcommands know. -/
def setJson (s : State) : Except Stop State :=
  if s.options.json || !s.subcommand?.any Subcommand.hasJson then .error .usage
  else .ok (s.withOptions { s.options with json := true })

/-- Only in front of the subcommand the version is an option. -/
def askVersion (s : State) : Except Stop State :=
  .error (if s.subcommand?.isSome then .usage else .version)

/-- The state after the long option with the given text behind its dashes. -/
def setLong (s : State) (text : List Char) : Except Stop State :=
  match Text.cut? '=' text with
  | some (name, path) =>
    if name = "config".toList then s.setPath (String.ofList path) else .error .usage
  | none =>
    if text = "config".toList then
      if s.options.config?.isSome then .error .usage else .ok { s with awaitsPath := true }
    else if text = "verbose".toList then s.setVerbose
    else if text = "quiet".toList then s.setQuiet
    else if text = "json".toList then s.setJson
    else if text = "help".toList then .error .help
    else if text = "version".toList then s.askVersion
    else .error .usage

/-- The state after the short option with the given letter. -/
def setShort (s : State) (letter : Char) : Except Stop State :=
  match letter with
  | 'v' => s.setVerbose
  | 'q' => s.setQuiet
  | 'h' => .error .help
  | 'V' => s.askVersion
  | _ => .error .usage

/-- The state after an argument that is no option: the subcommand first, then queries. -/
def addPositional (s : State) (arg : String) : Except Stop State :=
  match s.subcommand? with
  | none =>
    if s.ended then .error .usage
    else if arg = "help" then .ok { s with topics? := some [] }
    else
      match Subcommand.ofName? arg with
      | some c => .ok { s with subcommand? := some c }
      | none => .error .usage
  | some .convert => .ok { s with queries := arg :: s.queries }
  | some _ => .error .usage

/-- Whether an argument looks like an option. -/
def isOption (arg : String) : Bool :=
  match arg.toList with
  | '-' :: _ :: _ => true
  | _ => false

/-- The state after one more argument that is not about help. -/
def addArgument (s : State) (arg : String) : Except Stop State :=
  if s.awaitsPath then
    if isOption arg then .error .usage else s.setPath arg
  else if s.ended then s.addPositional arg
  else
    match arg.toList with
    | ['-', '-'] => .ok { s with ended := true }
    | '-' :: '-' :: text => s.setLong text
    | '-' :: letter :: letters => (letter :: letters).foldlM setShort s
    | _ => s.addPositional arg

/-- The state after one more argument. -/
def step (s : State) (arg : String) : Except Stop State :=
  match s.topics? with
  | some topics => .ok { s with topics? := some (arg :: topics) }
  | none => s.addArgument arg

end State

/-- What the arguments ask for. -/
structure Invocation where
  subcommand : Subcommand
  config? : Option String
  verbose : Bool
  quiet : Bool
  json : Bool
  queries : List String
  deriving DecidableEq, Repr

/-- What the arguments ask for, once all of them are read; to convert takes at least one query. -/
def State.finish (s : State) : Except Stop Invocation :=
  match s.topics?, s.subcommand? with
  | some topics, _ => .error (if hasHelp topics.reverse then .help else .usage)
  | none, none => .error .usage
  | none, some c =>
    if s.awaitsPath ∨ (c = .convert ∧ s.queries = []) then .error .usage
    else
      .ok
        { subcommand := c
          config? := s.back.config?.or s.front.config?
          verbose := s.front.verbose || s.back.verbose
          quiet := s.front.quiet || s.back.quiet
          json := s.back.json
          queries := s.queries.reverse }

/-- What a list of arguments asks for. -/
def Invocation.ofArguments (args : List String) : Except Stop Invocation := do
  let s ← args.foldlM State.step .start
  s.finish

end DashQuery.Command
