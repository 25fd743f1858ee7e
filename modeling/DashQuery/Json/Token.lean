import DashQuery.Decimal.Reading
import DashQuery.Text.Hex
import DashQuery.Text.Scan

/-!
# The tokens of JSON

A text is cut into punctuation, words, numbers and strings.  Strings hold no control characters;
the escapes of characters beyond U+FFFF come in pairs.  A number too large for a floating-point
number is refused.

* `tokens?_nil`, `tokens?_cons`: how a text is consumed.
-/

namespace DashQuery.Json

/-- One token of a JSON text. -/
inductive Token where
  | openTable
  | closeTable
  | openList
  | closeList
  | comma
  | colon
  | null
  | bool (b : Bool)
  | number (literal : String)
  | text (s : String)
  deriving DecidableEq, Repr

/-- Whether a character may stand between tokens. -/
def isSpace (c : Char) : Bool := c == ' ' || c == '\n' || c == '\t' || c == '\r'

/-- The number written with four hexadecimal digits at the front, and the rest. -/
def readUnit? : List Char → Option (Nat × List Char)
  | a :: b :: c :: d :: rest => (Text.hexNumber? [a, b, c, d]).map (·, rest)
  | _ => none

/-- The character given by its number after `\u`.  A leading surrogate is joined with the trailing
one that must follow it. -/
def readUnicode? (cs : List Char) : Option (Char × List Char) :=
  match readUnit? cs with
  | none => none
  | some (high, rest) =>
    if 0xD800 ≤ high ∧ high < 0xDC00 then
      match (Text.stripPrefix? ['\\', 'u'] rest).bind readUnit? with
      | some (low, rest) =>
        if 0xDC00 ≤ low ∧ low < 0xE000 then
          some (Char.ofNat (0x10000 + (high - 0xD800) * 0x400 + (low - 0xDC00)), rest)
        else none
      | none => none
    else if 0xDC00 ≤ high ∧ high < 0xE000 then none
    else some (Char.ofNat high, rest)

/-- The character that an escape stands for, the backslash being read. -/
def readEscape? : List Char → Option (Char × List Char)
  | '"' :: cs => some ('"', cs)
  | '\\' :: cs => some ('\\', cs)
  | '/' :: cs => some ('/', cs)
  | 'b' :: cs => some ('\x08', cs)
  | 'f' :: cs => some ('\x0c', cs)
  | 'n' :: cs => some ('\n', cs)
  | 'r' :: cs => some ('\r', cs)
  | 't' :: cs => some ('\t', cs)
  | 'u' :: cs => readUnicode? cs
  | _ => none

theorem readUnit?_length {cs rest : List Char} {n : Nat} (h : readUnit? cs = some (n, rest)) :
    rest.length < cs.length := by
  unfold readUnit? at h
  split at h
  · simp only [Option.map_eq_some_iff, Prod.mk.injEq] at h
    obtain ⟨d, -, -, rfl⟩ := h
    simp only [List.length_cons]
    omega
  · cases h

theorem readUnicode?_length {cs rest : List Char} {c : Char}
    (h : readUnicode? cs = some (c, rest)) : rest.length < cs.length := by
  unfold readUnicode? at h
  split at h
  · cases h
  · next hhigh =>
    have h1 := readUnit?_length hhigh
    split at h
    · split at h
      · next hlow =>
        obtain ⟨r, hr, hlow⟩ := Option.bind_eq_some_iff.1 hlow
        have h2 := readUnit?_length hlow
        have h3 := congrArg List.length (Text.stripPrefix?_eq_some_iff.1 hr)
        simp only [List.length_append, List.length_cons, List.length_nil] at h3
        split at h
        · simp only [Option.some.injEq, Prod.mk.injEq] at h
          obtain ⟨-, rfl⟩ := h
          omega
        · cases h
      · cases h
    · split at h
      · cases h
      · simp only [Option.some.injEq, Prod.mk.injEq] at h
        obtain ⟨-, rfl⟩ := h
        exact h1

theorem readEscape?_length {cs rest : List Char} {c : Char}
    (h : readEscape? cs = some (c, rest)) : rest.length < cs.length := by
  unfold readEscape? at h
  split at h
  all_goals try
    (simp only [Option.some.injEq, Prod.mk.injEq] at h
     obtain ⟨-, rfl⟩ := h
     exact Nat.lt_succ_self _)
  · exact Nat.lt_succ_of_lt (readUnicode?_length h)
  · cases h

/-- The rest of a string after its opening quote, and the text after its closing quote. -/
def readString? (cs : List Char) : Option (List Char × List Char) :=
  match cs with
  | [] => none
  | c :: rest =>
    if c = '"' then some ([], rest)
    else if c = '\\' then
      match _h : readEscape? rest with
      | none => none
      | some (d, rest') => (readString? rest').map fun r => (d :: r.1, r.2)
    else if c.toNat < 0x20 then none
    else (readString? rest).map fun r => (c :: r.1, r.2)
termination_by cs.length
decreasing_by
  · have := readEscape?_length _h
    simp only [List.length_cons]
    omega
  · exact Nat.lt_succ_self _

theorem readString?_length {cs rest : List Char} {s : List Char}
    (h : readString? cs = some (s, rest)) : rest.length < cs.length := by
  fun_induction readString? cs generalizing s with
  | case1 => cases h
  | case2 => cases h; exact Nat.lt_succ_self _
  | case3 => cases h
  | case4 tail d tail' he _ ih =>
    obtain ⟨⟨s', r⟩, hr, heq⟩ := Option.map_eq_some_iff.1 h
    cases heq
    have h1 : r.length < tail'.length := ih hr
    have h2 := readEscape?_length he
    simp only [List.length_cons]
    omega
  | case5 => cases h
  | case6 c tail _ _ _ ih =>
    obtain ⟨⟨s', r⟩, hr, heq⟩ := Option.map_eq_some_iff.1 h
    cases heq
    exact Nat.lt_succ_of_lt (ih hr)

/-- Whether a character can stand in a number. -/
def isNumberChar (c : Char) : Bool :=
  c.isDigit || c == '+' || c == '-' || c == '.' || c == 'e' || c == 'E'

/-- Whether a text without sign is a number: no zero in front of other digits, and digits on both
sides of a point. -/
def isUnsignedNumber (cs : List Char) : Bool :=
  let whole := cs.takeWhile Char.isDigit
  let rest := cs.dropWhile Char.isDigit
  let wholeOk := whole == ['0'] || (whole != [] && whole.head? != some '0')
  let fractionOk := match rest with
    | '.' :: r =>
      r.takeWhile Char.isDigit != [] && (Decimal.readExponent? (r.dropWhile Char.isDigit)).isSome
    | r => (Decimal.readExponent? r).isSome
  wholeOk && fractionOk

/-- The leading digits of a number that fit into 64 bits: the number is about
`significand * 10 ^ exponent`. -/
structure Leading where
  significand : Nat
  exponent : Int
  /-- Whether a digit did not fit, so that the digits behind it are left out. -/
  full : Bool
  deriving DecidableEq, Repr

namespace Leading

/-- One more digit, of the fraction or in front of it. -/
def addDigit (inFraction : Bool) (x : Leading) (c : Char) : Leading :=
  let next := x.significand * 10 + Decimal.digitValue c
  if x.full ∨ Nat.pow 2 64 ≤ next then
    ⟨x.significand, if inFraction then x.exponent else x.exponent + 1, true⟩
  else ⟨next, if inFraction then x.exponent - 1 else x.exponent, false⟩

/-- The leading digits of a number with the given digits in front of the point and behind it; a
fraction is given the room that its whole part has left. -/
def ofDigits (whole fraction : List Char) : Leading :=
  let x := whole.foldl (addDigit false) ⟨0, 0, false⟩
  fraction.foldl (addDigit true) { x with full := false }

/-- Whether the number, with a further exponent, does not exceed the floating-point numbers.  The
significand and the power of ten are rounded before they are multiplied. -/
def isFinite (x : Leading) (exponent : Int) : Bool :=
  let exponent := x.exponent + exponent
  x.significand == 0 || exponent < 0 ||
    (exponent ≤ 308 &&
      (x.significand.toUInt64.toFloat * Float.ofScientific 1 false exponent.toNat).isFinite)

end Leading

/-- Whether a number without sign does not exceed the floating-point numbers. -/
def isInRange (cs : List Char) : Bool :=
  let rest := cs.dropWhile Char.isDigit
  let (fraction, rest) := match rest with
    | '.' :: r => (r.takeWhile Char.isDigit, r.dropWhile Char.isDigit)
    | r => ([], r)
  match Decimal.readExponent? rest with
  | some exponent => (Leading.ofDigits (cs.takeWhile Char.isDigit) fraction).isFinite exponent
  | none => false

/-- Whether a text is a number in range. -/
def isNumber (cs : List Char) : Bool :=
  let body := match cs with
    | '-' :: r => r
    | r => r
  isUnsignedNumber body && isInRange body

/-- The token that begins with `c`. -/
def readToken? (c : Char) (cs : List Char) : Option (Token × List Char) :=
  match c with
  | '\x7b' => some (.openTable, cs)
  | '\x7d' => some (.closeTable, cs)
  | '[' => some (.openList, cs)
  | ']' => some (.closeList, cs)
  | ',' => some (.comma, cs)
  | ':' => some (.colon, cs)
  | 'n' => (Text.stripPrefix? "ull".toList cs).map (.null, ·)
  | 't' => (Text.stripPrefix? "rue".toList cs).map (.bool true, ·)
  | 'f' => (Text.stripPrefix? "alse".toList cs).map (.bool false, ·)
  | '"' => (readString? cs).map fun r => (.text (String.ofList r.1), r.2)
  | _ =>
    let literal := c :: cs.takeWhile isNumberChar
    if isNumber literal then
      some (.number (String.ofList literal), cs.dropWhile isNumberChar)
    else none

theorem readToken?_length_le {c : Char} {cs rest : List Char} {t : Token}
    (h : readToken? c cs = some (t, rest)) : rest.length ≤ cs.length := by
  have word {w : String} {t' : Token}
      (h : (Text.stripPrefix? w.toList cs).map (t', ·) = some (t, rest)) :
      rest.length ≤ cs.length := by
    obtain ⟨r, hr, heq⟩ := Option.map_eq_some_iff.1 h
    cases heq
    have := congrArg List.length (Text.stripPrefix?_eq_some_iff.1 hr)
    simp only [List.length_append] at this
    omega
  unfold readToken? at h
  split at h
  all_goals try (cases h; exact Nat.le_refl _)
  · exact word h
  · exact word h
  · exact word h
  · obtain ⟨⟨s, r⟩, hr, heq⟩ := Option.map_eq_some_iff.1 h
    cases heq
    exact Nat.le_of_lt (readString?_length hr)
  · dsimp only at h
    split at h
    · cases h
      exact (List.dropWhile_suffix isNumberChar).length_le
    · cases h

/-- The tokens of a text. -/
def tokens? (cs : List Char) : Option (List Token) :=
  match cs with
  | [] => some []
  | c :: rest =>
    if isSpace c then tokens? rest
    else
      match _h : readToken? c rest with
      | none => none
      | some (token, rest') => (tokens? rest').map (token :: ·)
termination_by cs.length
decreasing_by
  · exact Nat.lt_succ_self _
  · have := readToken?_length_le _h
    simp only [List.length_cons]
    omega

@[simp] theorem tokens?_nil : tokens? [] = some [] := by
  rw [tokens?]

theorem tokens?_space {c : Char} {cs : List Char} (h : isSpace c = true) :
    tokens? (c :: cs) = tokens? cs := by
  rw [tokens?, if_pos h]

theorem tokens?_cons {c : Char} {cs rest : List Char} {t : Token} (hc : isSpace c = false)
    (h : readToken? c cs = some (t, rest)) : tokens? (c :: cs) = (tokens? rest).map (t :: ·) := by
  rw [tokens?, if_neg (by simp [hc])]
  split
  · next heq => rw [h] at heq; cases heq
  · next heq => rw [h] at heq; cases heq; rfl

end DashQuery.Json
