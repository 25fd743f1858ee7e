import DashQuery.Text.Hex
import DashQuery.Value

/-!
# Writing JSON

Values are written over several lines, every level two spaces deeper.  In a string, quotes,
backslashes and control characters are escaped and all else stands for itself.
-/

namespace DashQuery.Json

/-- A character as it stands in a string. -/
def escapeChar (c : Char) : List Char :=
  if c = '"' then ['\\', '"']
  else if c = '\\' then ['\\', '\\']
  else if c = '\x08' then ['\\', 'b']
  else if c = '\x0c' then ['\\', 'f']
  else if c = '\n' then ['\\', 'n']
  else if c = '\r' then ['\\', 'r']
  else if c = '\t' then ['\\', 't']
  else if c.toNat < 0x20 then
    ['\\', 'u', '0', '0'] ++ Text.hexPair c.toNat
  else [c]

/-- A string between quotes. -/
def renderString (s : String) : List Char := '"' :: (s.toList.flatMap escapeChar ++ ['"'])

/-- The end of a line and the spaces at the front of the next one. -/
def newline (depth : Nat) : List Char := '\n' :: List.replicate (2 * depth) ' '

mutual

/-- A value at a depth of nesting. -/
def renderAt (depth : Nat) : Value → List Char
  | .null => "null".toList
  | .bool true => "true".toList
  | .bool false => "false".toList
  | .number literal => literal.toList
  | .char c => renderString (String.ofList [c])
  | .text s => renderString s
  | .list [] => ['[', ']']
  | .list (v :: vs) =>
    '[' :: (newline (depth + 1) ++ renderAt (depth + 1) v ++ renderItems (depth + 1) vs ++
      newline depth ++ [']'])
  | .table [] => ['\x7b', '\x7d']
  | .table ((key, v) :: fields) =>
    '\x7b' :: (newline (depth + 1) ++ renderString key ++ [':', ' '] ++ renderAt (depth + 1) v ++
      renderFields (depth + 1) fields ++ newline depth ++ ['\x7d'])

/-- The items of a list behind the first one. -/
def renderItems (depth : Nat) : List Value → List Char
  | [] => []
  | v :: vs => ',' :: (newline depth ++ renderAt depth v ++ renderItems depth vs)

/-- The fields of a table behind the first one. -/
def renderFields (depth : Nat) : List (String × Value) → List Char
  | [] => []
  | (key, v) :: fields =>
    ',' :: (newline depth ++ renderString key ++ [':', ' '] ++ renderAt depth v ++
      renderFields depth fields)

end

/-- The text of a value. -/
def render (v : Value) : String := String.ofList (renderAt 0 v)

end DashQuery.Json
