import DashQuery.Pattern.Regexp
import DashQuery.Text.Hex
import DashQuery.Text.Letter
import DashQuery.Text.Scan

/-!
# The tokens of a pattern

A pattern is read one token at a time.  Which token stands next depends on the flags in force and
on whether the position is inside brackets.  A reader takes the characters that are left and answers
the token with the characters after it, or nothing if the pattern is malformed there; what it
leaves is an end of what it was given (`readToken?_suffix`).
-/

namespace DashQuery.Pattern

/-- The flags in force at a place of a pattern. -/
structure Flags where
  /-- `i`: letters match in either case. -/
  ignoreCase : Bool
  /-- `m`: `^` and `$` match at the ends of lines. -/
  multiLine : Bool
  /-- `s`: `.` matches the end of a line too. -/
  dotAll : Bool
  /-- `x`: blanks and comments in the pattern are skipped. -/
  verbose : Bool
  /-- `R`: a carriage return ends lines too. -/
  crlf : Bool
  /-- `-u`: classes hold ASCII characters only. -/
  ascii : Bool
  deriving DecidableEq, Repr

namespace Flags

/-- The flags at the start of a pattern. -/
def initial : Flags := ⟨false, false, false, false, false, false⟩

/-- The letters that may stand in a list of flags. -/
def letters : List Char := ['i', 'm', 's', 'U', 'u', 'x', 'R', '-']

/-- The flags after one letter is turned on or off. -/
def set (f : Flags) (letter : Char) (on : Bool) : Flags :=
  match letter with
  | 'i' => { f with ignoreCase := on }
  | 'm' => { f with multiLine := on }
  | 's' => { f with dotAll := on }
  | 'x' => { f with verbose := on }
  | 'R' => { f with crlf := on }
  | 'u' => { f with ascii := !on }
  | _ => f

/-- Whether a list of letters, some of them after a `-`, can be read as flags. -/
def wellFormed (text : List Char) : Bool :=
  text.all letters.contains && decide text.Nodup && text.getLast? != some '-'

/-- The flags after a list of letters, those behind a `-` being turned off. -/
def update (f : Flags) (text : List Char) : Flags :=
  let on := (Text.before '-' text).foldl (·.set · true) f
  (text.drop (Text.before '-' text).length).foldl (·.set · false) on

end Flags

/-- One token of a pattern. -/
inductive Token where
  /-- A single character, a class, a dot or an assertion. -/
  | leaf (r : Regexp)
  /-- A repetition operator, lazy or not. -/
  | repetition (lo : Nat) (hi? : Option Nat)
  /-- The start of a group with its flags, and its name if it has one. -/
  | openGroup (flags : Flags) (captures : Bool) (name? : Option (List Char))
  | closeGroup
  | setFlags (flags : Flags)
  /-- The bar between two branches. -/
  | bar
  /-- An opening bracket, perhaps with a caret. -/
  | openSet (negated : Bool)
  | closeSet
  /-- A dash at the front of a set, where it stands for itself. -/
  | frontDash
  /-- A member of the set inside brackets. -/
  | member (s : CharSet)
  | setOp (op : SetOp)
  deriving DecidableEq, Repr

/-- Where a token stands. -/
inductive Position where
  | outside
  /-- Right behind an opening bracket and its caret. -/
  | setFront
  /-- Behind the dashes at the front of a set. -/
  | behindDashes
  /-- Anywhere else inside brackets. -/
  | insideSet
  deriving DecidableEq, Repr

/-- What stands after a backslash. -/
inductive Escape where
  | char (c : Char)
  | set (s : CharSet)
  | assertion (a : Assertion)
  deriving DecidableEq, Repr

/-- The characters after the blanks and comments at the front of a verbose pattern. -/
def skipComments (inComment : Bool) : List Char → List Char
  | [] => []
  | c :: cs =>
    if inComment then skipComments (c != '\n') cs
    else if Text.isBlank c then skipComments false cs
    else if c = '#' then skipComments true cs
    else c :: cs

/-- The characters after what the flags allow to skip. -/
def Flags.skip (f : Flags) (cs : List Char) : List Char :=
  if f.verbose then skipComments false cs else cs

theorem skipComments_suffix (inComment : Bool) (cs : List Char) :
    skipComments inComment cs <:+ cs := by
  induction cs generalizing inComment with
  | nil => exact List.suffix_rfl
  | cons c cs ih =>
    have htail := List.suffix_cons c cs
    rw [skipComments]
    split
    · exact (ih _).trans htail
    · split
      · exact (ih _).trans htail
      · split
        · exact (ih _).trans htail
        · exact List.suffix_rfl

theorem Flags.skip_suffix (f : Flags) (cs : List Char) : f.skip cs <:+ cs := by
  unfold Flags.skip
  split
  · exact skipComments_suffix _ _
  · exact List.suffix_rfl

theorem Flags.suffix_of_skip {f : Flags} {c : Char} {cs tail : List Char}
    (h : f.skip cs = c :: tail) : tail <:+ cs :=
  (List.suffix_cons c tail).trans (h ▸ f.skip_suffix cs)

/-- The next character as a dash between two members looks ahead for it.  In a verbose pattern it
looks past blanks and one sign of a comment, but not past the comment. -/
def Flags.ahead (f : Flags) (cs : List Char) : Option Char :=
  if f.verbose then
    match cs.dropWhile Text.isBlank with
    | '#' :: rest => (rest.dropWhile Text.isBlank).head?
    | rest => rest.head?
  else cs.head?

/-- The text in front of a closing brace, without what the flags allow to skip, and the text behind
the brace. -/
def Flags.braced? (f : Flags) (inComment : Bool) : List Char → Option (List Char × List Char)
  | [] => none
  | c :: cs =>
    if inComment then f.braced? (c != '\n') cs
    else if f.verbose && Text.isBlank c then f.braced? false cs
    else if f.verbose && c == '#' then f.braced? true cs
    else if c = '\x7d' then some ([], cs)
    else (f.braced? false cs).map fun r => (c :: r.1, r.2)

/-! ## Characters given by number -/

/-- That many hexadecimal digits, and the text behind them. -/
def readHexDigits? (f : Flags) : (count : Nat) → List Char → Option (List Char × List Char)
  | 0, cs => some ([], cs)
  | count + 1, cs =>
    match f.skip cs with
    | [] => none
    | c :: rest =>
      if (Text.hexValue? c).isSome then
        (readHexDigits? f count rest).map fun r => (c :: r.1, r.2)
      else none

/-- The character given by its number after `\x`, `\u` or `\U`: that many hexadecimal digits, or
any number of them in braces.  In ASCII mode two digits without braces stand for a byte, which must
be an ASCII character. -/
def readHex? (f : Flags) (count : Nat) (cs : List Char) : Option (Char × List Char) :=
  match f.skip cs with
  | '\x7b' :: rest => do
    let (digits, rest) ← f.braced? false rest
    let c ← Text.charOfHex? digits
    some (c, rest)
  | rest => do
    let (digits, rest) ← readHexDigits? f count rest
    let c ← Text.charOfHex? digits
    if f.ascii ∧ count = 2 ∧ 128 ≤ c.toNat then none else some (c, rest)

/-! ## Escapes -/

/-- The ASCII ranges of the classes that `d`, `s` and `w` name. -/
def asciiClass (letter : Char) : CharSet :=
  match letter with
  | 'd' => .range '0' '9'
  | 's' => .ofRanges [('\t', '\r'), (' ', ' ')]
  | _ => .ofRanges [('0', '9'), ('A', 'Z'), ('_', '_'), ('a', 'z')]

/-- The class that a letter names, with its complement for the capital letter.  In ASCII mode the
complements would hold more than ASCII and are refused. -/
def namedClass? (f : Flags) (letter : Char) : Option CharSet :=
  if f.ascii then
    if letter.isLower then some (asciiClass letter) else none
  else
    let base : CharSet := match letter.toLower with
      | 'd' => .digit
      | 's' => .space
      | _ => .word
    some (if letter.isLower then base else .complement base)

/-- The case folding that the flags ask for. -/
def Flags.fold (f : Flags) (s : CharSet) : CharSet :=
  if f.ignoreCase then s.fold f.ascii else s

/-- A text cut at its first `!=`, which is left out. -/
def cutUnequal? : List Char → Option (List Char × List Char)
  | [] => none
  | '!' :: '=' :: cs => some ([], cs)
  | c :: cs => (cutUnequal? cs).map fun r => (c :: r.1, r.2)

/-- The characters that the text after `\p` stands for: a name, or a property and its value between
which `=` or `:` stands.  With `!=` all others are meant. -/
def namedProperty? (text : List Char) : Option (Bool × CharSet) :=
  match cutUnequal? text with
  | some (property, value) =>
    (Text.Property.valued? property value).map fun rs => (true, .table rs)
  | none =>
    match (Text.cut? ':' text).or (Text.cut? '=' text) with
    | some (property, value) =>
      (Text.Property.valued? property value).map fun rs => (false, .table rs)
    | none => (Text.Property.named? text).map fun rs => (false, .table rs)

/-- The text after `\p` that names a property: one character, or several in braces. -/
def propertyText? (f : Flags) (cs : List Char) : Option (List Char × List Char) :=
  match f.skip cs with
  | [] => none
  | c :: rest =>
    if c = '\x7b' then f.braced? false rest
    else if c = '\\' then none
    else some ([c], rest)

/-- The class that `\p` or, if it is negated, `\P` names.  There is none in ASCII mode. -/
def readProperty? (f : Flags) (negated : Bool) (cs : List Char) :
    Option (CharSet × List Char) :=
  if f.ascii then none
  else
    match propertyText? f cs with
    | none => none
    | some (text, rest) =>
      (namedProperty? text).map fun (unequal, s) =>
        (if negated != unequal then .complement (f.fold s) else f.fold s, rest)

/-- The letters of a special word assertion such as `{start-half}`. -/
def isEdgeLetter (c : Char) : Bool := c.isAlpha || c == '-'

/-- The special word edges by their names. -/
def edgeNames : List (String × WordEdge) :=
  [("start", .start), ("end", .finish), ("start-half", .startHalf), ("end-half", .finishHalf)]

/-- The word edge that `\b` names together with the braces after it.  Braces that hold no name are
left for a repetition count. -/
def readEdge? (f : Flags) (cs : List Char) : Option (WordEdge × List Char) :=
  match cs with
  | '\x7b' :: rest =>
    match f.skip rest with
    | [] => none
    | c :: _ =>
      if isEdgeLetter c then
        match f.braced? false rest with
        | none => none
        | some (name, rest) => (edgeNames.lookup (String.ofList name)).map (·, rest)
      else some (.boundary, cs)
  | _ => some (.boundary, cs)

/-- The escape after a backslash.  Every ASCII character that is neither a letter nor a digit
stands for itself, `<` and `>` excepted; letters and digits without a meaning are refused. -/
def readEscape? (f : Flags) : List Char → Option (Escape × List Char)
  | [] => none
  | c :: cs =>
    match c with
    | 'x' => (readHex? f 2 cs).map fun (d, rest) => (.char d, rest)
    | 'u' => (readHex? f 4 cs).map fun (d, rest) => (.char d, rest)
    | 'U' => (readHex? f 8 cs).map fun (d, rest) => (.char d, rest)
    | 'p' => (readProperty? f false cs).map fun (s, rest) => (.set s, rest)
    | 'P' => (readProperty? f true cs).map fun (s, rest) => (.set s, rest)
    | 'a' => some (.char '\x07', cs)
    | 'f' => some (.char '\x0c', cs)
    | 't' => some (.char '\t', cs)
    | 'n' => some (.char '\n', cs)
    | 'r' => some (.char '\r', cs)
    | 'v' => some (.char '\x0b', cs)
    | 'A' => some (.assertion .textStart, cs)
    | 'z' => some (.assertion .textEnd, cs)
    | 'b' => (readEdge? f cs).map fun (edge, rest) => (.assertion (.word edge f.ascii), rest)
    | 'B' => some (.assertion (.word .inside f.ascii), cs)
    | '<' => some (.assertion (.word .start f.ascii), cs)
    | '>' => some (.assertion (.word .finish f.ascii), cs)
    | _ =>
      if ['d', 'D', 's', 'S', 'w', 'W'].contains c then
        (namedClass? f c).map fun s => (.set s, cs)
      else if c.toNat < 128 ∧ !c.isAlphanum then some (.char c, cs)
      else none

/-! ## Tokens outside brackets -/

/-- The set that a literal character matches. -/
def Flags.literal (f : Flags) (c : Char) : CharSet := f.fold (.single c)

/-- The set that a dot matches.  In ASCII mode it would hold more than ASCII and is refused. -/
def Flags.dot? (f : Flags) : Option CharSet :=
  if f.ascii then none
  else if f.dotAll then some .all
  else if f.crlf then some (.complement (.union (.single '\n') (.single '\r')))
  else some (.complement (.single '\n'))

/-- The rest after the `?` that makes a repetition lazy. -/
def skipLazy : List Char → List Char
  | '?' :: cs => cs
  | cs => cs

/-- The largest count of a repetition. -/
def maxCount : Nat := 4294967295

/-- The count that a text stands for, blanks around it left out. -/
def count? (text : List Char) : Option Nat :=
  let digits := Text.trim text
  let n := digits.foldl (fun n c => n * 10 + (c.toNat - '0'.toNat)) 0
  if digits ≠ [] ∧ digits.all Char.isDigit ∧ n ≤ maxCount then some n else none

/-- The counts between braces: `n`, `n,` or `n,m` with `n ≤ m`. -/
def counts? (text : List Char) : Option (Nat × Option Nat) :=
  match Text.cut? ',' text with
  | none => (count? text).map fun n => (n, some n)
  | some (low, []) => (count? low).map fun n => (n, none)
  | some (low, high) =>
    match count? low, count? high with
    | some lo, some hi => if lo ≤ hi then some (lo, some hi) else none
    | _, _ => none

/-- The repetition counted in braces. -/
def readBraces? (f : Flags) (cs : List Char) : Option (Token × List Char) :=
  match f.braced? false cs with
  | none => none
  | some (text, rest) =>
    (counts? text).map fun (lo, hi?) => (.repetition lo hi?, skipLazy (f.skip rest))

/-- Whether a character may stand in a group name, at its front or later. -/
def isNameChar (atFront : Bool) (c : Char) : Bool :=
  c == '_' || Text.isLetter c ||
    (!atFront && (Text.isNumeral c || c == '.' || c == '[' || c == ']'))

/-- Whether a text can name a group. -/
def isGroupName : List Char → Bool
  | [] => false
  | c :: cs => isNameChar true c && cs.all (isNameChar false)

/-- A group name that ends with `>`. -/
def readGroupName? (f : Flags) (cs : List Char) : Option (Token × List Char) := do
  let (name, rest) ← Text.cut? '>' cs
  if isGroupName name then some (.openGroup f true (some name), rest) else none

/-- Whether a character is in front of the `:` or `)` that ends a list of flags. -/
def isFlagChar (c : Char) : Bool := c != ':' && c != ')'

/-- A list of flags by what ends it: a group with these flags, or flags to be set.  Setting no
flags is refused. -/
def readFlags? (f : Flags) (letters cs : List Char) : Option (Token × List Char) :=
  if Flags.wellFormed letters then
    match cs with
    | ':' :: rest => some (.openGroup (f.update letters) false none, rest)
    | ')' :: rest => if letters = [] then none else some (.setFlags (f.update letters), rest)
    | _ => none
  else none

/-- The token that begins with a parenthesis: a group with or without a name, a group with flags,
or flags for the rest of the group around them. -/
def readGroup? (f : Flags) (cs : List Char) : Option (Token × List Char) :=
  match f.skip cs with
  | '?' :: 'P' :: '<' :: rest => readGroupName? f rest
  | '?' :: '<' :: rest =>
    match rest with
    | '=' :: _ => none
    | '!' :: _ => none
    | _ => readGroupName? f rest
  | '?' :: rest =>
    readFlags? f (rest.takeWhile isFlagChar) (rest.dropWhile isFlagChar)
  | rest => some (.openGroup f true none, rest)

/-- The opening of a set in brackets, whose complement is meant if a caret follows. -/
def readOpenSet (f : Flags) (cs : List Char) : Token × List Char :=
  match f.skip cs with
  | '^' :: rest => (.openSet true, rest)
  | rest => (.openSet false, rest)

/-- The token outside brackets that begins with `c`. -/
def readOutside? (f : Flags) (c : Char) (cs : List Char) : Option (Token × List Char) :=
  match c with
  | '(' => readGroup? f cs
  | ')' => some (.closeGroup, cs)
  | '|' => some (.bar, cs)
  | '[' => some (readOpenSet f cs)
  | '?' => some (.repetition 0 (some 1), skipLazy cs)
  | '*' => some (.repetition 0 none, skipLazy cs)
  | '+' => some (.repetition 1 none, skipLazy cs)
  | '{' => readBraces? f cs
  | '.' => f.dot?.map fun s => (.leaf (.set s), cs)
  | '^' => some (.leaf (.look (if f.multiLine then .lineStart f.crlf else .textStart)), cs)
  | '$' => some (.leaf (.look (if f.multiLine then .lineEnd f.crlf else .textEnd)), cs)
  | '\\' =>
    match readEscape? f cs with
    | some (.char d, rest) => some (.leaf (.set (f.literal d)), rest)
    | some (.set s, rest) => some (.leaf (.set s), rest)
    | some (.assertion a, rest) => some (.leaf (.look a), rest)
    | none => none
  | _ => some (.leaf (.set (f.literal c)), cs)

/-! ## Tokens inside brackets -/

/-- The named classes that are written `[:alpha:]` inside brackets. -/
def posixClasses : List (String × CharSet) :=
  [("alnum", .ofRanges [('0', '9'), ('A', 'Z'), ('a', 'z')]),
   ("alpha", .ofRanges [('A', 'Z'), ('a', 'z')]),
   ("ascii", .range '\x00' '\x7f'),
   ("blank", .ofRanges [('\t', '\t'), (' ', ' ')]),
   ("cntrl", .ofRanges [('\x00', '\x1f'), ('\x7f', '\x7f')]),
   ("digit", .range '0' '9'),
   ("graph", .range '!' '~'),
   ("lower", .range 'a' 'z'),
   ("print", .range ' ' '~'),
   ("punct", .ofRanges [('!', '/'), (':', '@'), ('[', '\x60'), ('\x7b', '~')]),
   ("space", .ofRanges [('\t', '\r'), (' ', ' ')]),
   ("upper", .range 'A' 'Z'),
   ("word", .ofRanges [('0', '9'), ('A', 'Z'), ('_', '_'), ('a', 'z')]),
   ("xdigit", .ofRanges [('0', '9'), ('A', 'F'), ('a', 'f')])]

/-- The rest of a named class after `[:`. -/
def readPosix? (cs : List Char) : Option (Bool × CharSet × List Char) :=
  let (negated, cs) := match cs with
    | '^' :: rest => (true, rest)
    | _ => (false, cs)
  posixClasses.findSome? fun (name, s) =>
    (Text.stripPrefix? (name.toList ++ [':', ']']) cs).map fun rest => (negated, s, rest)

/-- The member that a named class makes.  In ASCII mode the complement would hold more than ASCII
and is refused. -/
def posixMember? (f : Flags) (negated : Bool) (s : CharSet) : Option CharSet :=
  if !negated then some (f.fold s)
  else if f.ascii then none
  else some (.complement (f.fold s))

/-- A character or a class inside brackets, the first character being `c`. -/
def readAtom? (f : Flags) (c : Char) (cs : List Char) : Option (Escape × List Char) :=
  if c = '\\' then readEscape? f cs else some (.char c, cs)

/-- Whether a character can be a member; in ASCII mode only ASCII can. -/
def Flags.admits (f : Flags) (c : Char) : Bool := !f.ascii || c.toNat < 128

/-- A member that is not a range. -/
def Escape.member? (f : Flags) : Escape → Option CharSet
  | .char c => if f.admits c then some (.single c) else none
  | .set s => some s
  | .assertion _ => none

/-- The range between two members. -/
def rangeMember? (f : Flags) : (low high : Escape) → Option CharSet
  | .char lo, .char hi => if lo ≤ hi ∧ f.admits lo ∧ f.admits hi then some (.range lo hi) else none
  | _, _ => none

/-- Whether a dash before this character is a member of its own, or the first dash of a
difference. -/
def endsRange (next : Option Char) : Bool := next == some ']' || next == some '-'

/-- A range or a single member, the first character being `c`. -/
def readMember? (f : Flags) (c : Char) (cs : List Char) : Option (Token × List Char) := do
  let (low, rest) ← readAtom? f c cs
  let rest := f.skip rest
  let single := (low.member? f).map fun s => (Token.member s, rest)
  match rest with
  | '-' :: afterDash =>
    if endsRange (f.ahead afterDash) then single
    else
      match f.skip afterDash with
      | [] => none
      | d :: ds => do
        let (high, rest) ← readAtom? f d ds
        (rangeMember? f low high).map fun s => (.member s, rest)
  | _ => single

/-- The token inside brackets that begins with `c`. -/
def readInside? (f : Flags) (c : Char) (cs : List Char) : Option (Token × List Char) :=
  match c, cs with
  | '[', ':' :: rest =>
    match readPosix? rest with
    | some (negated, s, rest) => (posixMember? f negated s).map fun s => (.member s, rest)
    | none => some (readOpenSet f cs)
  | '[', _ => some (readOpenSet f cs)
  | ']', _ => some (.closeSet, cs)
  | '&', '&' :: rest => some (.setOp .intersection, rest)
  | '-', '-' :: rest => some (.setOp .difference, rest)
  | '~', '~' :: rest => some (.setOp .symmetricDifference, rest)
  | _, _ => readMember? f c cs

/-- The token at a position that begins with `c`.  At the front of a set a dash stands for itself,
and so does a closing bracket that comes first. -/
def readToken? (position : Position) (f : Flags) (c : Char) (cs : List Char) :
    Option (Token × List Char) :=
  match position with
  | .outside => readOutside? f c cs
  | .setFront =>
    if c = '-' then some (.frontDash, cs)
    else if c = ']' then some (.member (.single c), cs)
    else readInside? f c cs
  | .behindDashes => if c = '-' then some (.frontDash, cs) else readInside? f c cs
  | .insideSet => readInside? f c cs

/-! ## What a reader leaves is an end of what it was given -/

theorem cut?_suffix {mark : Char} {cs first rest : List Char}
    (h : Text.cut? mark cs = some (first, rest)) : rest <:+ cs := by
  simp only [Text.cut?, Option.map_eq_some_iff, Prod.mk.injEq] at h
  obtain ⟨r, hr, -, rfl⟩ := h
  exact ⟨Text.before mark cs ++ [mark], by simpa using (Text.before_append_after hr).symm⟩

theorem skipLazy_suffix (cs : List Char) : skipLazy cs <:+ cs := by
  unfold skipLazy
  split
  · exact List.suffix_cons _ _
  · exact List.suffix_rfl

theorem braced?_suffix {f : Flags} {inComment : Bool} {cs text rest : List Char}
    (h : f.braced? inComment cs = some (text, rest)) : rest <:+ cs := by
  induction cs generalizing inComment text with
  | nil => cases h
  | cons c cs ih =>
    have htail := List.suffix_cons c cs
    rw [Flags.braced?] at h
    split at h
    · exact (ih h).trans htail
    · split at h
      · exact (ih h).trans htail
      · split at h
        · exact (ih h).trans htail
        · split at h
          · cases h; exact htail
          · simp only [Option.map_eq_some_iff, Prod.mk.injEq] at h
            obtain ⟨⟨text', r⟩, hr, -, rfl⟩ := h
            exact (ih hr).trans htail

theorem readHexDigits?_suffix {f : Flags} {count : Nat} {cs digits rest : List Char}
    (h : readHexDigits? f count cs = some (digits, rest)) : rest <:+ cs := by
  induction count generalizing cs digits with
  | zero => cases h; exact List.suffix_rfl
  | succ count ih =>
    rw [readHexDigits?] at h
    split at h
    · cases h
    · next hskip =>
      split at h
      · simp only [Option.map_eq_some_iff, Prod.mk.injEq] at h
        obtain ⟨⟨digits', r⟩, hr, -, rfl⟩ := h
        exact (ih hr).trans (Flags.suffix_of_skip hskip)
      · cases h

theorem readHex?_suffix {f : Flags} {count : Nat} {cs rest : List Char} {c : Char}
    (h : readHex? f count cs = some (c, rest)) : rest <:+ cs := by
  unfold readHex? at h
  split at h
  · next tail htail =>
    simp only [Option.bind_eq_bind, Option.bind_eq_some_iff, Option.some.injEq] at h
    obtain ⟨⟨digits, r⟩, hr, d, -, hd⟩ := h
    cases hd
    exact (braced?_suffix hr).trans (Flags.suffix_of_skip htail)
  · simp only [Option.bind_eq_bind, Option.bind_eq_some_iff] at h
    obtain ⟨⟨digits, r⟩, hr, d, -, hd⟩ := h
    dsimp only at hd
    split at hd
    · cases hd
    · cases hd
      exact (readHexDigits?_suffix hr).trans (f.skip_suffix cs)

theorem propertyText?_suffix {f : Flags} {cs text rest : List Char}
    (h : propertyText? f cs = some (text, rest)) : rest <:+ cs := by
  unfold propertyText? at h
  split at h
  · cases h
  · next hskip =>
    have htail := Flags.suffix_of_skip hskip
    split at h
    · exact (braced?_suffix h).trans htail
    · split at h
      · cases h
      · cases h; exact htail

theorem readProperty?_suffix {f : Flags} {negated : Bool} {cs rest : List Char} {s : CharSet}
    (h : readProperty? f negated cs = some (s, rest)) : rest <:+ cs := by
  unfold readProperty? at h
  split at h
  · cases h
  · split at h
    · cases h
    · next ht =>
      simp only [Option.map_eq_some_iff, Prod.mk.injEq] at h
      obtain ⟨r, -, -, rfl⟩ := h
      exact propertyText?_suffix ht

theorem readEdge?_suffix {f : Flags} {cs rest : List Char} {edge : WordEdge}
    (h : readEdge? f cs = some (edge, rest)) : rest <:+ cs := by
  unfold readEdge? at h
  split at h
  · split at h
    · cases h
    · split at h
      · split at h
        · cases h
        · next hb =>
          simp only [Option.map_eq_some_iff, Prod.mk.injEq] at h
          obtain ⟨e, -, -, rfl⟩ := h
          exact (braced?_suffix hb).trans (List.suffix_cons _ _)
      · cases h; exact List.suffix_rfl
  · cases h; exact List.suffix_rfl

theorem readEscape?_suffix {f : Flags} {cs rest : List Char} {e : Escape}
    (h : readEscape? f cs = some (e, rest)) : rest <:+ cs := by
  unfold readEscape? at h
  split at h
  · cases h
  · next c cs =>
    have htail := List.suffix_cons c cs
    have hex {count : Nat} (h : (readHex? f count cs).map
        (fun (d, rest) => (Escape.char d, rest)) = some (e, rest)) : rest <:+ c :: cs := by
      simp only [Option.map_eq_some_iff, Prod.mk.injEq] at h
      obtain ⟨⟨d, r⟩, hr, -, rfl⟩ := h
      exact (readHex?_suffix hr).trans htail
    have property {negated : Bool} (h : (readProperty? f negated cs).map
        (fun (s, rest) => (Escape.set s, rest)) = some (e, rest)) : rest <:+ c :: cs := by
      simp only [Option.map_eq_some_iff, Prod.mk.injEq] at h
      obtain ⟨⟨d, r⟩, hr, -, rfl⟩ := h
      exact (readProperty?_suffix hr).trans htail
    split at h
    · exact hex h
    · exact hex h
    · exact hex h
    · exact property h
    · exact property h
    all_goals try (cases h; exact htail)
    · simp only [Option.map_eq_some_iff, Prod.mk.injEq] at h
      obtain ⟨⟨d, r⟩, hr, -, rfl⟩ := h
      exact (readEdge?_suffix hr).trans htail
    · split at h
      · simp only [Option.map_eq_some_iff, Prod.mk.injEq] at h
        obtain ⟨s, -, -, rfl⟩ := h
        exact htail
      · split at h
        · cases h; exact htail
        · cases h

theorem readBraces?_suffix {f : Flags} {cs rest : List Char} {t : Token}
    (h : readBraces? f cs = some (t, rest)) : rest <:+ cs := by
  unfold readBraces? at h
  split at h
  · cases h
  · next r hr =>
    simp only [Option.map_eq_some_iff, Prod.mk.injEq] at h
    obtain ⟨counts, -, -, rfl⟩ := h
    exact (skipLazy_suffix _).trans ((f.skip_suffix _).trans (braced?_suffix hr))

theorem readGroupName?_suffix {f : Flags} {cs rest : List Char} {t : Token}
    (h : readGroupName? f cs = some (t, rest)) : rest <:+ cs := by
  simp only [readGroupName?, Option.bind_eq_bind, Option.bind_eq_some_iff] at h
  obtain ⟨⟨name, r⟩, hcut, hr⟩ := h
  split at hr
  · cases hr; exact cut?_suffix hcut
  · cases hr

theorem readFlags?_suffix {f : Flags} {letters cs rest : List Char} {t : Token}
    (h : readFlags? f letters cs = some (t, rest)) : rest <:+ cs := by
  unfold readFlags? at h
  split at h
  · split at h
    · cases h; exact List.suffix_cons _ _
    · split at h
      · cases h
      · cases h; exact List.suffix_cons _ _
    · cases h
  · cases h

theorem readGroup?_suffix {f : Flags} {cs rest : List Char} {t : Token}
    (h : readGroup? f cs = some (t, rest)) : rest <:+ cs := by
  unfold readGroup? at h
  split at h
  · next r hr =>
    have hname : r <:+ '?' :: 'P' :: '<' :: r := ⟨['?', 'P', '<'], rfl⟩
    exact (readGroupName?_suffix h).trans (hname.trans (hr ▸ f.skip_suffix cs))
  · next r hr =>
    have hname : r <:+ '?' :: '<' :: r := ⟨['?', '<'], rfl⟩
    split at h
    · cases h
    · cases h
    · exact (readGroupName?_suffix h).trans (hname.trans (hr ▸ f.skip_suffix cs))
  · next r _ _ hr =>
    exact (readFlags?_suffix h).trans
      ((List.dropWhile_suffix isFlagChar).trans (Flags.suffix_of_skip hr))
  · cases h; exact f.skip_suffix cs

theorem readOpenSet_suffix (f : Flags) (cs : List Char) : (readOpenSet f cs).2 <:+ cs := by
  unfold readOpenSet
  split
  · next h => exact Flags.suffix_of_skip h
  · exact f.skip_suffix cs

theorem readOutside?_suffix {f : Flags} {c : Char} {cs rest : List Char} {t : Token}
    (h : readOutside? f c cs = some (t, rest)) : rest <:+ cs := by
  unfold readOutside? at h
  split at h
  · exact readGroup?_suffix h
  · cases h; exact List.suffix_rfl
  · cases h; exact List.suffix_rfl
  · have := readOpenSet_suffix f cs
    rwa [Option.some.inj h] at this
  · cases h; exact skipLazy_suffix _
  · cases h; exact skipLazy_suffix _
  · cases h; exact skipLazy_suffix _
  · exact readBraces?_suffix h
  · simp only [Option.map_eq_some_iff, Prod.mk.injEq] at h
    obtain ⟨s, -, -, rfl⟩ := h
    exact List.suffix_rfl
  · cases h; exact List.suffix_rfl
  · cases h; exact List.suffix_rfl
  · split at h
    · next he => cases h; exact readEscape?_suffix he
    · next he => cases h; exact readEscape?_suffix he
    · next he => cases h; exact readEscape?_suffix he
    · cases h
  · cases h; exact List.suffix_rfl

theorem readPosix?_suffix {negated : Bool} {cs rest : List Char} {s : CharSet}
    (h : readPosix? cs = some (negated, s, rest)) : rest <:+ cs := by
  have inner (b : Bool) (r : List Char) (hr : r <:+ cs)
      (h : (posixClasses.findSome? fun (name, s) =>
        (Text.stripPrefix? (name.toList ++ [':', ']']) r).map fun rest => (b, s, rest)) =
          some (negated, s, rest)) : rest <:+ cs := by
    obtain ⟨⟨name, set⟩, -, hs⟩ := List.exists_of_findSome?_eq_some h
    simp only [Option.map_eq_some_iff, Prod.mk.injEq, Text.stripPrefix?_eq_some_iff] at hs
    obtain ⟨r', hr', -, -, rfl⟩ := hs
    exact List.IsSuffix.trans ⟨_, hr'.symm⟩ hr
  unfold readPosix? at h
  split at h
  · next heq =>
    split at heq
    · cases heq; exact inner _ _ (List.suffix_cons _ _) h
    · cases heq; exact inner _ _ List.suffix_rfl h

theorem readAtom?_suffix {f : Flags} {c : Char} {cs rest : List Char} {e : Escape}
    (h : readAtom? f c cs = some (e, rest)) : rest <:+ cs := by
  unfold readAtom? at h
  split at h
  · exact readEscape?_suffix h
  · cases h; exact List.suffix_rfl

theorem readMember?_suffix {f : Flags} {c : Char} {cs rest : List Char} {t : Token}
    (h : readMember? f c cs = some (t, rest)) : rest <:+ cs := by
  simp only [readMember?, Option.bind_eq_bind, Option.bind_eq_some_iff] at h
  obtain ⟨⟨low, r⟩, hlow, h⟩ := h
  have hatom : r <:+ cs := readAtom?_suffix hlow
  have single {s : Option CharSet} (h : s.map (fun s => (Token.member s, f.skip r)) =
      some (t, rest)) : rest <:+ cs := by
    simp only [Option.map_eq_some_iff, Prod.mk.injEq] at h
    obtain ⟨s, -, -, rfl⟩ := h
    exact (f.skip_suffix r).trans hatom
  split at h
  · next tail htail =>
    split at h
    · exact single h
    · split at h
      · cases h
      · next d ds hd =>
        simp only [Option.bind_eq_some_iff, Option.map_eq_some_iff, Prod.mk.injEq] at h
        obtain ⟨⟨high, r'⟩, hhigh, s, -, -, rfl⟩ := h
        have hrange : r' <:+ ds := readAtom?_suffix hhigh
        exact (hrange.trans (Flags.suffix_of_skip hd)).trans
          ((Flags.suffix_of_skip htail).trans hatom)
  · exact single h

theorem readInside?_suffix {f : Flags} {c : Char} {cs rest : List Char} {t : Token}
    (h : readInside? f c cs = some (t, rest)) : rest <:+ cs := by
  unfold readInside? at h
  split at h
  · next tail =>
    split at h
    · next hp =>
      simp only [Option.map_eq_some_iff, Prod.mk.injEq] at h
      obtain ⟨s, -, -, rfl⟩ := h
      exact (readPosix?_suffix hp).trans (List.suffix_cons _ _)
    · have := readOpenSet_suffix f (':' :: tail)
      rwa [Option.some.inj h] at this
  · have := readOpenSet_suffix f cs
    rwa [Option.some.inj h] at this
  · cases h; exact List.suffix_rfl
  · cases h; exact List.suffix_cons _ _
  · cases h; exact List.suffix_cons _ _
  · cases h; exact List.suffix_cons _ _
  · exact readMember?_suffix h

theorem readToken?_suffix {position : Position} {f : Flags} {c : Char} {cs rest : List Char}
    {t : Token} (h : readToken? position f c cs = some (t, rest)) : rest <:+ cs := by
  unfold readToken? at h
  split at h
  · exact readOutside?_suffix h
  · split at h
    · cases h; exact List.suffix_rfl
    · split at h
      · cases h; exact List.suffix_rfl
      · exact readInside?_suffix h
  · split at h
    · cases h; exact List.suffix_rfl
    · exact readInside?_suffix h
  · exact readInside?_suffix h

end DashQuery.Pattern
