import DashQuery.Json.Parser
import DashQuery.Settings.Environment
import DashQuery.Settings.Shape
import DashQuery.Settings.Wrapped
import DashQuery.Toml.Parser

/-!
# Loading settings

Settings come in three layers: the built-in ones, those of a file, and those of the environment.
The layers are merged first, and only what results is checked for its shape.
-/

namespace DashQuery.Settings

/-- The formats of settings files. -/
inductive Format where
  | toml
  | json
  deriving DecidableEq, Repr

/-- Why settings cannot be loaded. -/
inductive LoadError where
  /-- A variable of the environment has a quoted text that would be cut inside a character. -/
  | splitCharacter
  /-- The file is not a text of its format. -/
  | malformedFile
  /-- The layers together are no settings. -/
  | wrongShape
  deriving DecidableEq, Repr

/-- The settings file that is looked for if none is named. -/
def defaultPath : String := "dashconv.toml"

/-- The extension of a path: what is behind the last dot of the last name, if a dot is in it
behind its first character. -/
def extension? (path : String) : Option (List Char) :=
  let names := ((Text.pieces '/' path).filter fun n => n != "" && n != ".").map String.toList
  match names.getLast? with
  | some (c :: name) =>
    if c :: name = ['.', '.'] then none
    else if name.contains '.' then some (name.reverse.takeWhile (· != '.')).reverse
    else none
  | _ => none

/-- The format of the file at a path. -/
def Format.ofPath (path : String) : Format :=
  if extension? path = some "json".toList then .json else .toml

/-- Whether a value of a file is an identifier: a whole number of 64 bits without a sign.  The
numbers of TOML have signs, so none of them is one. -/
def Format.isIdentifier : Format → Value → Bool
  | .json, .number literal =>
    literal.toList.all Char.isDigit && Decimal.digitsValue literal.toList < Nat.pow 2 64
  | _, _ => false

/-- The fields of a file as they are written.  A JSON file must hold a table. -/
def Format.parse? (format : Format) (text : String) : Option (List (String × Value)) :=
  match format with
  | .toml => Toml.parse? text.toList
  | .json =>
    match Json.parse? text.toList with
    | some (.table fields) => some fields
    | _ => none

/-- The fields of a file. -/
def fileFields? (format : Format) (text : String) : Option (List (String × Value)) :=
  (format.parse? text).bind (Value.unwrapFile? format.isIdentifier)

/-- The built-in fields with those of a file and those of the environment on top. -/
def mergeLayers (file environment : List (String × Value)) : List (String × Value) :=
  Value.mergeFields (Value.mergeFields builtin.toFields file) environment

/-- The settings of the fields of a file and of the environment. -/
def ofLayers (file environment : List (String × Value)) : Except LoadError Settings :=
  match ofFields? (mergeLayers file environment) with
  | some settings => .ok settings
  | none => .error .wrongShape

/-- The settings with the text of a file, if there is one, and the environment. -/
def load (format : Format) (text? : Option String) (vars : List (String × String)) :
    Except LoadError Settings :=
  match environmentFields? vars with
  | none => .error .splitCharacter
  | some environment =>
    match text? with
    | none => ofLayers [] environment
    | some text =>
      match fileFields? format text with
      | none => .error .malformedFile
      | some file => ofLayers file environment

end DashQuery.Settings
