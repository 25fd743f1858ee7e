import DashQuery.Text.Property.Age
import DashQuery.Text.Property.Binary
import DashQuery.Text.Property.Category
import DashQuery.Text.Property.Script
import DashQuery.Text.Property.Segment

/-!
# Character properties by name

Properties are named loosely: the case of letters does not count, nor do blanks, underscores,
dashes and a leading `is`.  A name alone stands for a binary property, a general category or a
script; with a value it stands for the code points whose property has that value.
-/

namespace DashQuery.Text.Property

/-- The letters of a name that count, in lower case. -/
def nameLetters (cs : List Char) : List Char :=
  (cs.filter fun c => c.toNat < 128 && !(c == ' ' || c == '_' || c == '-')).map Char.toLower

/-- A name without the leading `is`, if it has one. -/
def splitIs : List Char → Option (List Char)
  | a :: b :: cs => if a.toLower = 'i' ∧ b.toLower = 's' then some cs else none
  | _ => none

/-- The form of a name in which names are compared.  The abbreviation `isc` keeps its `is`, so that
it does not become the category `c`. -/
def looseName (cs : List Char) : String :=
  match splitIs cs with
  | none => String.ofList (nameLetters cs)
  | some rest =>
    let name := nameLetters rest
    String.ofList (if name = ['c'] then ['i', 's', 'c'] else name)

/-- The categories that unite others, by their names and the names of the united ones. -/
def categoryGroups : List (List String × List String) :=
  [(["c", "other"], ["cc", "cf", "cn", "co"]),
   (["l", "letter"], ["lu", "ll", "lt", "lm", "lo"]),
   (["lc", "casedletter"], ["lu", "ll", "lt"]),
   (["m", "mark", "combiningmark"], ["mn", "mc", "me"]),
   (["n", "number"], ["nd", "nl", "no"]),
   (["p", "punctuation", "punct"], ["pc", "pd", "ps", "pe", "pi", "pf", "po"]),
   (["s", "symbol"], ["sm", "sc", "sk", "so"]),
   (["z", "separator"], ["zs", "zl", "zp"])]

/-- The code points of the categories whose short name has a property. -/
def unitedCategories (p : String → Bool) : List (Nat × Nat) :=
  (categories.filter (·.names.any p)).flatMap Entry.ranges

/-- The code points of a general category, or of a union of them. -/
def category? (name : String) : Option (List (Nat × Nat)) :=
  if name = "any" then some [(0, 0x10FFFF)]
  else if name = "ascii" then some [(0, 0x7F)]
  else if name = "assigned" then
    some ((categories.filter fun e => !e.names.contains "cn").flatMap Entry.ranges)
  else
    match categoryGroups.find? (·.1.contains name) with
    | some group => some (unitedCategories group.2.contains)
    | none => (entryOf? categories name).map Entry.ranges

/-- The code points of a script. -/
def script? (name : String) : Option (List (Nat × Nat)) :=
  (entryOf? scripts name).map Entry.ranges

/-- The code points that a script uses, those among them that it shares with others. -/
def extendedScript? (name : String) : Option (List (Nat × Nat)) :=
  match entryOf? scripts name with
  | none => none
  | some script =>
    match extendedScripts.find? fun e => e.names.any script.names.contains with
    | some extended => some extended.ranges
    | none => some script.ranges

/-- The code points that were assigned in a version of the standard or before it. -/
def assignedBy? (version : String) : Option (List (Nat × Nat)) :=
  match ages.findIdx? (·.names.contains version) with
  | some index => some ((ages.take (index + 1)).flatMap Entry.ranges)
  | none => none

/-- The code points of a binary property. -/
def binary? (name : String) : Option (List (Nat × Nat)) :=
  ((entryOf? binariesLow name).or (entryOf? binariesHigh name)).map Entry.ranges

/-- The code points that a name alone stands for. -/
def named? (name : List Char) : Option (List (Nat × Nat)) :=
  let name := looseName name
  ((binary? name).or (category? name)).or (script? name)

/-- The code points whose property has a value. -/
def valued? (property value : List Char) : Option (List (Nat × Nat)) :=
  let property := looseName property
  let value := looseName value
  if property = "gc" ∨ property = "generalcategory" then category? value
  else if property = "sc" ∨ property = "script" then script? value
  else if property = "scx" ∨ property = "scriptextensions" then extendedScript? value
  else if property = "age" then assignedBy? value
  else if property = "gcb" ∨ property = "graphemeclusterbreak" then
    (entryOf? graphemeBreaks value).map Entry.ranges
  else if property = "wb" ∨ property = "wordbreak" then
    (entryOf? wordBreaks value).map Entry.ranges
  else if property = "sb" ∨ property = "sentencebreak" then
    (entryOf? sentenceBreaks value).map Entry.ranges
  else none

end DashQuery.Text.Property
