import DashQuery.Text.Hex
import DashQuery.Text.Scan

/-!
# Blanks, comments and strings of TOML

Lines end with a line feed, in front of which a carriage return may stand.  Control characters
other than the tab stand nowhere.  Strings are basic, with escapes, or literal, and either kind may
span lines between three quotes; a line end in a string is a line feed whatever it was.
-/

namespace DashQuery.Toml

/-- Whether a character is a blank inside a line. -/
def isSpace (c : Char) : Bool := c == ' ' || c == '\t'

/-- A text without the blanks at its front. -/
def skipSpaces (cs : List Char) : List Char := cs.dropWhile isSpace

/-- Whether a character may stand in a comment or a string. -/
def isPrintable (c : Char) : Bool := c == '\t' || (0x20 ≤ c.toNat && c.toNat != 0x7F)

/-- The text after the line end at the front. -/
def newline? : List Char → Option (List Char)
  | '\n' :: cs => some cs
  | '\r' :: '\n' :: cs => some cs
  | _ => none

/-- The text after the line end at the front, if there is one. -/
def skipNewline (cs : List Char) : List Char := (newline? cs).getD cs

/-- The text after the comment at the front, if there is one. -/
def skipComment : List Char → List Char
  | '#' :: cs => cs.dropWhile isPrintable
  | cs => cs

/-- The text of the next line, if this one holds nothing but blanks and a comment. -/
def lineEnd? (cs : List Char) : Option (List Char) :=
  match skipComment (skipSpaces cs) with
  | [] => some []
  | rest => newline? rest

/-- The text after blanks, comments and line ends; the fuel bounds the count of lines. -/
def skipLines : Nat → List Char → List Char
  | 0, cs => cs
  | fuel + 1, cs =>
    let rest := skipComment (skipSpaces cs)
    match newline? rest with
    | some rest => skipLines fuel rest
    | none => skipSpaces cs

/-- The text after all blanks and line ends. -/
def skipBlankLines : List Char → List Char
  | [] => []
  | '\r' :: '\n' :: cs => skipBlankLines cs
  | c :: cs => if isSpace c || c == '\n' then skipBlankLines cs else c :: cs

theorem skipBlankLines_length_le (cs : List Char) : (skipBlankLines cs).length ≤ cs.length := by
  fun_induction skipBlankLines cs with
  | case1 => exact Nat.le_refl _
  | case2 cs ih => exact Nat.le_succ_of_le (Nat.le_succ_of_le ih)
  | case3 c cs _ _ ih => exact Nat.le_succ_of_le ih
  | case4 => exact Nat.le_refl _

/-- The character that an escape of one letter stands for. -/
def simpleEscape? (c : Char) : Option Char :=
  [('b', '\x08'), ('t', '\t'), ('n', '\n'), ('f', '\x0c'), ('r', '\r'), ('"', '"'),
   ('\\', '\\')].lookup c

/-- The characters that an escape stands for and the text after it, the backslash being read.  In a
string over several lines a line end is escaped together with all blanks and line ends behind it. -/
def readEscape? (multiline : Bool) : List Char → Option (List Char × List Char)
  | [] => none
  | c :: cs =>
    if c = 'u' then (Text.readHexChar? 4 cs).map fun (d, rest) => ([d], rest)
    else if c = 'U' then (Text.readHexChar? 8 cs).map fun (d, rest) => ([d], rest)
    else
      match simpleEscape? c with
      | some d => some ([d], cs)
      | none =>
        if multiline && (newline? (skipSpaces (c :: cs))).isSome then
          some ([], skipBlankLines (c :: cs))
        else none

theorem readEscape?_length_le {multiline : Bool} {cs out rest : List Char}
    (h : readEscape? multiline cs = some (out, rest)) : rest.length ≤ cs.length := by
  unfold readEscape? at h
  split at h
  · cases h
  · next c cs =>
    have hex {count : Nat} (h : (Text.readHexChar? count cs).map
        (fun (d, rest) => ([d], rest)) = some (out, rest)) : rest.length ≤ (c :: cs).length := by
      simp only [Option.map_eq_some_iff, Prod.mk.injEq] at h
      obtain ⟨⟨d, r⟩, hr, -, rfl⟩ := h
      exact Nat.le_succ_of_le (Text.readHexChar?_length_le hr)
    split at h
    · exact hex h
    · split at h
      · exact hex h
      · split at h
        · cases h; exact Nat.le_succ _
        · split at h
          · cases h; exact skipBlankLines_length_le _
          · cases h

/-- What a quote behind the opening quotes of a string over several lines does: three quotes close
it, and up to two more of them belong to its content.  Answers the content at the end and the text
after the string, or nothing if the quote is content. -/
def closing? (quote : Char) (cs : List Char) : Option (List Char × List Char) :=
  let count := (cs.takeWhile (· == quote)).length
  if count < 3 then none
  else
    let extra := min (count - 3) 2
    some (List.replicate extra quote, cs.drop (extra + 3))

/-- The rest of a basic string and the text after it. -/
def readBasic? (multiline : Bool) (cs : List Char) : Option (List Char × List Char) :=
  match cs with
  | [] => none
  | c :: rest =>
    if c = '"' then
      if multiline then
        match closing? '"' (c :: rest) with
        | some closed => some closed
        | none => (readBasic? multiline rest).map fun r => ('"' :: r.1, r.2)
      else some ([], rest)
    else if c = '\\' then
      match _h : readEscape? multiline rest with
      | none => none
      | some (out, rest') => (readBasic? multiline rest').map fun r => (out ++ r.1, r.2)
    else if isPrintable c then (readBasic? multiline rest).map fun r => (c :: r.1, r.2)
    else if multiline then
      if c = '\n' then (readBasic? multiline rest).map fun r => ('\n' :: r.1, r.2)
      else if c = '\r' ∧ rest.head? = some '\n' then readBasic? multiline rest
      else none
    else none
termination_by cs.length
decreasing_by
  · exact Nat.lt_succ_self _
  · exact Nat.lt_succ_of_le (readEscape?_length_le _h)
  · exact Nat.lt_succ_self _
  · exact Nat.lt_succ_self _
  · exact Nat.lt_succ_self _

/-- The rest of a literal string and the text after it. -/
def readLiteral? (multiline : Bool) : List Char → Option (List Char × List Char)
  | [] => none
  | c :: rest =>
    if c = '\'' then
      if multiline then
        match closing? '\'' (c :: rest) with
        | some closed => some closed
        | none => (readLiteral? multiline rest).map fun r => ('\'' :: r.1, r.2)
      else some ([], rest)
    else if isPrintable c then (readLiteral? multiline rest).map fun r => (c :: r.1, r.2)
    else if multiline then
      if c = '\n' then (readLiteral? multiline rest).map fun r => ('\n' :: r.1, r.2)
      else if c = '\r' ∧ rest.head? = some '\n' then readLiteral? multiline rest
      else none
    else none

/-- The string at the front, if the text begins with a quote. -/
def readString? : List Char → Option (List Char × List Char)
  | '"' :: '"' :: '"' :: cs => readBasic? true (skipNewline cs)
  | '"' :: cs => readBasic? false cs
  | '\'' :: '\'' :: '\'' :: cs => readLiteral? true (skipNewline cs)
  | '\'' :: cs => readLiteral? false cs
  | _ => none

end DashQuery.Toml
