import DashQuery.Settings.Variable

/-!
# Settings from environment variables

A variable whose name begins with `DASHCONV__` sets one field.  The rest of its name is the path to
the field: keys in lower case between `__` or dots.
-/

namespace DashQuery.Settings

/-- What the names of variables that set a field begin with, in any case of letters. -/
def variableStart : List Char := "dashconv__".toList

/-- A text with a dot in the place of every two underscores. -/
def dotUnderscores : List Char → List Char
  | '_' :: '_' :: cs => '.' :: dotUnderscores cs
  | c :: cs => c :: dotUnderscores cs
  | [] => []

/-- The path that the name of a variable gives, if it sets a field; blanks around the name and
around the path count for nothing. -/
def variablePath? (name : String) : Option (List String) :=
  let lower := (Text.trim name.toList).map Char.toLower
  match Text.stripPrefix? variableStart lower with
  | none => none
  | some rest =>
    let keys := (dotUnderscores (Text.trim rest)).splitOn '.'
    if keys.any (·.isEmpty) then none else some (keys.map String.ofList)

/-- The fields that one variable sets, unless its value cuts a character. -/
def variableFields? (name text : String) : Option (List (String × Value)) :=
  match variablePath? name with
  | some (key :: path) => (variableValue? text).map fun v => [(key, Value.nested path v)]
  | _ => some []

/-- The fields that the variables set, a later variable on top of an earlier one, unless the value
of one of them cuts a character. -/
def environmentFields? (vars : List (String × String)) : Option (List (String × Value)) :=
  vars.foldlM (fun fields v => (variableFields? v.1 v.2).map (Value.mergeFields fields)) []

end DashQuery.Settings
