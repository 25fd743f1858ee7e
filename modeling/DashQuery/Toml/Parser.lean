import DashQuery.Toml.Item
import DashQuery.Toml.Number
import DashQuery.Toml.Text

/-!
# Reading TOML

A text is a sequence of fields and table headers on lines of their own.  Fields belong to the table
of the last header, those in front of the first one to the whole.
-/

namespace DashQuery.Toml

/-- The count of levels, or of parts of a key, that is refused. -/
def maxDepth : Nat := 80

/-- Whether a character may stand in a key without quotes. -/
def isBareKeyChar (c : Char) : Bool := c.isAlphanum || c == '_' || c == '-'

/-- One part of a key and the text after it. -/
def readKeyPart? (cs : List Char) : Option (String × List Char) :=
  match cs with
  | '"' :: rest => (readBasic? false rest).map fun r => (String.ofList r.1, r.2)
  | '\'' :: rest => (readLiteral? false rest).map fun r => (String.ofList r.1, r.2)
  | _ =>
    let name := cs.takeWhile isBareKeyChar
    if name.isEmpty then none else some (String.ofList name, cs.dropWhile isBareKeyChar)

/-- At most `count` parts of a key with dots between them, and the text after the blanks behind
them. -/
def readKeyParts? : (count : Nat) → List Char → Option (List String × List Char)
  | 0, _ => none
  | count + 1, cs => do
    let (part, rest) ← readKeyPart? (skipSpaces cs)
    match skipSpaces rest with
    | '.' :: rest =>
      let (parts, rest) ← readKeyParts? count rest
      some (part :: parts, rest)
    | rest => some ([part], rest)

/-- A key: the path of tables, the last part, and the text after it. -/
def readKey? (cs : List Char) : Option (List String × String × List Char) := do
  let (parts, rest) ← readKeyParts? (maxDepth - 1) cs
  let last ← parts.getLast?
  some (parts.dropLast, last, rest)

/-- The key under which a date or time is kept. -/
def dateTimeKey : String := "$__toml_private_datetime"

/-- A value that is neither an array nor a table, and the text after it. -/
def readScalar? (cs : List Char) : Option (Value × List Char) :=
  match cs with
  | [] => none
  | c :: _ =>
    if c = '"' ∨ c = '\'' then (readString? cs).map fun r => (.text (String.ofList r.1), r.2)
    else if c = 't' then (Text.stripPrefix? "true".toList cs).map (.bool true, ·)
    else if c = 'f' then (Text.stripPrefix? "false".toList cs).map (.bool false, ·)
    else if startsDate cs || startsTime cs then
      (readDateTime? cs).map fun r => (.table [(dateTimeKey, .text (String.ofList r.1))], r.2)
    else (readNumber? cs).map fun r => (.number (String.ofList r.1), r.2)

/-- The text after the blanks, comments and line ends inside an array. -/
def skipInArray (cs : List Char) : List Char := skipLines (cs.length + 1) cs

mutual

/-- A value at a depth of nesting, and the text after it. -/
def readValue? (fuel depth : Nat) (cs : List Char) : Option (Value × List Char) :=
  match fuel with
  | 0 => none
  | fuel + 1 =>
    match cs with
    | '[' :: rest =>
      if depth + 1 < maxDepth then
        (readItems? fuel (depth + 1) (skipInArray rest)).map fun r => (.list r.1, r.2)
      else none
    | '\x7b' :: rest =>
      if depth + 1 < maxDepth then
        match skipSpaces rest with
        | '\x7d' :: rest => some (.table [], rest)
        | rest =>
          (readFields? fuel (depth + 1) rest []).map fun r => (.table (fieldValues r.1), r.2)
      else none
    | _ => readScalar? cs

/-- The rest of an array, with the text after it. -/
def readItems? (fuel depth : Nat) (cs : List Char) : Option (List Value × List Char) :=
  match fuel with
  | 0 => none
  | fuel + 1 =>
    match cs with
    | ']' :: rest => some ([], rest)
    | _ =>
      match readValue? fuel depth cs with
      | none => none
      | some (v, rest) =>
        match skipInArray rest with
        | ']' :: rest => some ([v], rest)
        | ',' :: rest =>
          (readItems? fuel depth (skipInArray rest)).map fun r => (v :: r.1, r.2)
        | _ => none

/-- The rest of an inline table with its first fields, and the text after it. -/
def readFields? (fuel depth : Nat) (cs : List Char) (fields : Fields) :
    Option (Fields × List Char) :=
  match fuel with
  | 0 => none
  | fuel + 1 =>
    match readKey? cs with
    | some (path, key, '=' :: rest) =>
      match readValue? fuel depth (skipSpaces rest) with
      | none => none
      | some (v, rest) =>
        match fields.insertDotted? v key path, skipSpaces rest with
        | some fields, '\x7d' :: rest => some (fields, rest)
        | some fields, ',' :: rest => readFields? fuel depth rest fields
        | _, _ => none
    | _ => none

end

/-- What has been read of a text: all fields, and the path to the table of the last header. -/
structure State where
  fields : Fields
  path : List String

/-- The state after a field, the text beginning with its key, and the text after its line. -/
def readField? (s : State) (cs : List Char) : Option (State × List Char) :=
  match readKey? cs with
  | some (path, key, '=' :: rest) => do
    let (v, rest) ← readValue? (2 * cs.length + 2) 0 (skipSpaces rest)
    let rest ← lineEnd? rest
    let fields ← s.fields.modify? (fun table => table.insertDotted? v key path) s.path
    some ({ s with fields }, rest)
  | _ => none

/-- The state after a header, the opening bracket being read, and the text after its line. -/
def readHeader? (s : State) (cs : List Char) : Option (State × List Char) :=
  match cs with
  | '[' :: cs =>
    match readKey? cs with
    | some (path, key, ']' :: ']' :: rest) => do
      let rest ← lineEnd? rest
      let fields ← s.fields.modify? (fun table => table.openElement? key) path
      some (⟨fields, path ++ [key]⟩, rest)
    | _ => none
  | _ =>
    match readKey? cs with
    | some (path, key, ']' :: rest) => do
      let rest ← lineEnd? rest
      let fields ← s.fields.modify? (fun table => table.openTable? key) path
      some (⟨fields, path ++ [key]⟩, rest)
    | _ => none

/-- The fields of a text; the fuel bounds the count of lines. -/
def readLines? : (fuel : Nat) → State → List Char → Option Fields
  | 0, _, _ => none
  | fuel + 1, s, cs =>
    match skipSpaces cs with
    | [] => some s.fields
    | '[' :: rest => do
      let (s, rest) ← readHeader? s rest
      readLines? fuel s rest
    | c :: rest =>
      if c = '#' ∨ c = '\n' ∨ c = '\r' then (lineEnd? (c :: rest)).bind (readLines? fuel s)
      else do
        let (s, rest) ← readField? s (c :: rest)
        readLines? fuel s rest

/-- A text without the mark of byte order at its front. -/
def skipByteOrderMark : List Char → List Char
  | '\uFEFF' :: cs => cs
  | cs => cs

/-- The fields that a text stands for. -/
def parse? (cs : List Char) : Option (List (String × Value)) :=
  (readLines? (cs.length + 1) ⟨[], []⟩ (skipByteOrderMark cs)).map fieldValues

end DashQuery.Toml
