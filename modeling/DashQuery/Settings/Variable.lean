import DashQuery.Decimal.Reading
import DashQuery.Text.Blank
import DashQuery.Toml.Text
import DashQuery.Value

/-!
# The value of a variable

The value of an environment variable is read as a boolean, a number, a quoted text or character, a
list `[a, b]` or a table `{k=v}`; what is none of these is plain text.

A quoted text is as it stands if nothing in it is escaped.  Otherwise its part in front of the first
escape counts as many bytes as it has characters: it is cut there, which must not be inside of a
character.
-/

namespace DashQuery.Settings

/-- Why a text is not read as a value. -/
inductive Unreadable where
  /-- It has another form. -/
  | otherForm
  /-- A quoted text in it would be cut inside a character. -/
  | splitCharacter
  deriving DecidableEq, Repr

/-- Whether a character may stand between the parts of a value. -/
def isGap (c : Char) : Bool :=
  c == ' ' || c == '\t' || c == '\n' || c == '\x0c' || c == '\r'

/-- Whether a character belongs to a plain text inside lists and tables. -/
def isPlainChar (c : Char) : Bool :=
  !(c == ',' || c == '\x7b' || c == '\x7d' || c == '[' || c == ']')

/-- Whether a text is a whole number of 64 bits. -/
def isInteger (cs : List Char) : Bool :=
  let (negative, digits) := Decimal.splitSign cs
  let n := Decimal.digitsValue digits
  !digits.isEmpty && digits.all Char.isDigit &&
    (if negative then n ≤ Nat.pow 2 63 else n < Nat.pow 2 64)

/-- The value of a text that is not quoted. -/
def plainValue (cs : List Char) : Value :=
  if cs.contains '.' && (Decimal.readFloat? cs).isSome then .number (String.ofList cs)
  else if isInteger cs then .number (String.ofList cs)
  else .text (String.ofList cs)

/-- Whether a quote that is not escaped comes. -/
def closesQuote : List Char → Bool
  | '"' :: _ => true
  | '\\' :: _ :: cs => closesQuote cs
  | _ :: cs => closesQuote cs
  | [] => false

/-- The rest of a quoted text and the text after it. -/
def readQuoted (cs : List Char) : Except Unreadable (List Char × List Char) :=
  let front := cs.takeWhile fun c => Toml.isPrintable c && c != '"' && c != '\\'
  match cs.drop front.length with
  | '"' :: rest => .ok (front, rest)
  | '\\' :: rest =>
    if closesQuote ('\\' :: rest) then
      match Text.takeBytes? front.length front, Toml.readBasic? false ('\\' :: rest) with
      | none, _ => .error .splitCharacter
      | _, none => .error .otherForm
      | some kept, some (escaped, rest) => .ok (kept ++ escaped, rest)
    else .error .otherForm
  | _ => .error .otherForm

/-- A value that is neither a list nor a table, and the text after it. -/
def readSimple (cs : List Char) : Except Unreadable (Value × List Char) :=
  match cs with
  | 't' :: 'r' :: 'u' :: 'e' :: rest => .ok (.bool true, rest)
  | 'f' :: 'a' :: 'l' :: 's' :: 'e' :: rest => .ok (.bool false, rest)
  | '"' :: rest => (readQuoted rest).map fun r => (.text (String.ofList r.1), r.2)
  | '\'' :: rest =>
    match rest with
    | c :: '\'' :: rest => .ok (.char c, rest)
    | _ => .error .otherForm
  | _ => .ok (plainValue (Text.trim (cs.takeWhile isPlainChar)), cs.dropWhile isPlainChar)

/-- A text without the gap at its front. -/
def skipGap (cs : List Char) : List Char := cs.dropWhile isGap

/-- Whether a character may stand in the key of a table without quotes. -/
def isKeyChar (c : Char) : Bool := c.isAlphanum || c == '_' || c == '-'

/-- The key of a field of a table, and the text after the gap behind it. -/
def readFieldKey (cs : List Char) : Except Unreadable (String × List Char) :=
  match skipGap cs with
  | '"' :: rest => (readQuoted rest).map fun r => (String.ofList r.1, skipGap r.2)
  | rest =>
    let key := rest.takeWhile isKeyChar
    if key.isEmpty then .error .otherForm
    else .ok (String.ofList key, skipGap (rest.dropWhile isKeyChar))

mutual

/-- A value with the gaps around it, and the text after it. -/
def readValue (fuel : Nat) (cs : List Char) : Except Unreadable (Value × List Char) :=
  match fuel with
  | 0 => .error .otherForm
  | fuel + 1 =>
    match skipGap cs with
    | '\x7b' :: rest =>
      (readFields fuel rest).map fun r => (.table (Entries.ofList r.1), skipGap r.2)
    | '[' :: rest => (readItems fuel rest).map fun r => (.list r.1, skipGap r.2)
    | rest => (readSimple rest).map fun r => (r.1, skipGap r.2)

/-- The rest of a list, and the text after it; a comma may stand behind the last item. -/
def readItems (fuel : Nat) (cs : List Char) : Except Unreadable (List Value × List Char) :=
  match fuel with
  | 0 => .error .otherForm
  | fuel + 1 =>
    match cs with
    | ']' :: rest => .ok ([], rest)
    | _ =>
      match readValue fuel cs with
      | .ok (v, ',' :: rest) => (readItems fuel rest).map fun r => (v :: r.1, r.2)
      | .ok (v, ']' :: rest) => .ok ([v], rest)
      | .ok _ => .error .otherForm
      | .error e => .error e

/-- The rest of a table, and the text after it; a comma may stand behind the last field. -/
def readFields (fuel : Nat) (cs : List Char) :
    Except Unreadable (List (String × Value) × List Char) :=
  match fuel with
  | 0 => .error .otherForm
  | fuel + 1 =>
    match cs with
    | '\x7d' :: rest => .ok ([], rest)
    | _ =>
      match readFieldKey cs with
      | .ok (key, '=' :: rest) =>
        match readValue fuel rest with
        | .ok (v, ',' :: rest) => (readFields fuel rest).map fun r => ((key, v) :: r.1, r.2)
        | .ok (v, '\x7d' :: rest) => .ok ([(key, v)], rest)
        | .ok _ => .error .otherForm
        | .error e => .error e
      | .ok _ => .error .otherForm
      | .error e => .error e

end

/-- The value of a variable, unless a character is cut in it; a text that does not end with its
value is plain text as a whole. -/
def variableValue? (text : String) : Option Value :=
  let cs := text.toList
  match readValue (2 * cs.length + 2) cs with
  | .ok (v, []) => some v
  | .error .splitCharacter => none
  | _ => some (.text text)

end DashQuery.Settings
