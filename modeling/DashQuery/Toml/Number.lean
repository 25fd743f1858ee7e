import DashQuery.Decimal.Reading
import DashQuery.Text.Hex

/-!
# Numbers and dates of TOML

Underscores may stand between digits.  Integers have 64 bits, and only they may be written in
another base; a fraction and an exponent make a floating-point number, which must be in range
unless it is negative.  Dates and times are checked against the calendar.
-/

namespace DashQuery.Toml

/-- The digits behind a digit, and the text after them; an underscore must be between digits. -/
def readMoreDigits? (isDigit : Char → Bool) : List Char → Option (List Char × List Char)
  | [] => some ([], [])
  | '_' :: cs =>
    match cs with
    | [] => none
    | c :: rest =>
      if isDigit c then (readMoreDigits? isDigit rest).map fun r => (c :: r.1, r.2) else none
  | c :: cs =>
    if isDigit c then (readMoreDigits? isDigit cs).map fun r => (c :: r.1, r.2)
    else some ([], c :: cs)

/-- The digits at the front, of which there is at least one, and the text after them. -/
def readDigits? (isDigit : Char → Bool) : List Char → Option (List Char × List Char)
  | [] => none
  | c :: cs =>
    if isDigit c then (readMoreDigits? isDigit cs).map fun r => (c :: r.1, r.2) else none

/-- A decimal number without needless zeros at its front: one zero, or digits behind another one. -/
def readWhole? : List Char → Option (List Char × List Char)
  | '0' :: cs => some (['0'], cs)
  | cs => readDigits? Char.isDigit cs

/-- An integer in another base. -/
def readBased? (base : Nat) (isDigit : Char → Bool) (cs : List Char) :
    Option (List Char × List Char) := do
  let (digits, rest) ← readDigits? isDigit cs
  let values ← digits.mapM Text.hexValue?
  if values.foldl (fun n v => n * base + v) 0 < Nat.pow 2 63 then some (digits, rest) else none

/-- The fraction behind a point, if there is one. -/
def readFraction? : List Char → Option (List Char × List Char)
  | '.' :: cs => (readDigits? Char.isDigit cs).map fun r => ('.' :: r.1, r.2)
  | cs => some ([], cs)

/-- The sign at the front, if there is one. -/
def takeSign : List Char → List Char × List Char
  | '+' :: cs => (['+'], cs)
  | '-' :: cs => (['-'], cs)
  | cs => ([], cs)

/-- The exponent, if there is one. -/
def readExponentPart? : List Char → Option (List Char × List Char)
  | c :: cs =>
    if c = 'e' ∨ c = 'E' then
      let (sign, rest) := takeSign cs
      (readDigits? Char.isDigit rest).map fun r => ('e' :: sign ++ r.1, r.2)
    else some ([], c :: cs)
  | [] => some ([], [])

/-- The words for the numbers that are not finite. -/
def readSpecial? : List Char → Option (List Char × List Char)
  | 'i' :: 'n' :: 'f' :: cs => some (['i', 'n', 'f'], cs)
  | 'n' :: 'a' :: 'n' :: cs => some (['n', 'a', 'n'], cs)
  | _ => none

/-- Whether an integer has 64 bits. -/
def inRange (negative : Bool) (n : Nat) : Bool :=
  if negative then n ≤ Nat.pow 2 63 else n < Nat.pow 2 63

/-- A number in base ten, as it is written without underscores. -/
def readDecimal? (cs : List Char) : Option (List Char × List Char) := do
  let (sign, rest) := takeSign cs
  match readSpecial? rest with
  | some (word, rest) => some (sign ++ word, rest)
  | none =>
    let (whole, rest) ← readWhole? rest
    let (fraction, rest) ← readFraction? rest
    let (exponent, rest) ← readExponentPart? rest
    if fraction = [] ∧ exponent = [] then
      if inRange (sign == ['-']) (Decimal.digitsValue whole) then some (sign ++ whole, rest)
      else none
    else
      let magnitude ← Decimal.readMagnitude? (whole ++ fraction ++ exponent)
      if magnitude.isFinite ∨ sign = ['-'] then
        some (sign ++ whole ++ fraction ++ exponent, rest)
      else none

/-- A number. -/
def readNumber? : List Char → Option (List Char × List Char)
  | '0' :: 'x' :: cs => readBased? 16 (fun c => (Text.hexValue? c).isSome) cs
  | '0' :: 'o' :: cs => readBased? 8 (fun c => '0' ≤ c && c ≤ '7') cs
  | '0' :: 'b' :: cs => readBased? 2 (fun c => c == '0' || c == '1') cs
  | cs => readDecimal? cs

/-! ## Dates and times -/

/-- The number in exactly `count` digits at the front. -/
def readFixed? (count : Nat) (cs : List Char) : Option (Nat × List Char) :=
  let digits := cs.take count
  if digits.length = count ∧ digits.all Char.isDigit then
    some (Decimal.digitsValue digits, cs.drop count)
  else none

/-- The number in exactly two digits at the front, if it is in range. -/
def readPair? (lo hi : Nat) (cs : List Char) : Option (Nat × List Char) :=
  match readFixed? 2 cs with
  | some (n, rest) => if lo ≤ n ∧ n ≤ hi then some (n, rest) else none
  | none => none

/-- The text after a character at the front. -/
def expect? (c : Char) : List Char → Option (List Char)
  | d :: cs => if d = c then some cs else none
  | [] => none

/-- The count of days of a month. -/
def daysOfMonth (year month : Nat) : Nat :=
  if month = 2 then
    if year % 4 = 0 ∧ (year % 100 ≠ 0 ∨ year % 400 = 0) then 29 else 28
  else if [4, 6, 9, 11].contains month then 30
  else 31

/-- A date, as it is written, and the text after it. -/
def readDate? (cs : List Char) : Option (List Char × List Char) := do
  let (year, rest) ← readFixed? 4 cs
  let (month, rest) ← readPair? 1 12 (← expect? '-' rest)
  let (_, rest) ← readPair? 1 (daysOfMonth year month) (← expect? '-' rest)
  some (cs.take 10, rest)

/-- The decimals of a second that are kept: nine at most, without zeros at the end. -/
def keptDecimals (digits : List Char) : List Char :=
  match ((digits.take 9).reverse.dropWhile (· == '0')).reverse with
  | [] => []
  | kept => '.' :: kept

/-- The decimals of a second, if there are any, and the text after them. -/
def readDecimals (cs : List Char) : List Char × List Char :=
  match cs with
  | '.' :: rest =>
    if rest.head?.any Char.isDigit then
      (keptDecimals (rest.takeWhile Char.isDigit), rest.dropWhile Char.isDigit)
    else ([], cs)
  | _ => ([], cs)

/-- A time of day with the decimals that are kept, and the text after it. -/
def readTime? (cs : List Char) : Option (List Char × List Char) := do
  let (_, rest) ← readPair? 0 23 cs
  let (_, rest) ← readPair? 0 59 (← expect? ':' rest)
  let (_, rest) ← readPair? 0 60 (← expect? ':' rest)
  let (decimals, rest) := readDecimals rest
  some (cs.take 8 ++ decimals, rest)

/-- The offset of a time, if there is one, and the text after it.  A sign must begin an offset, and
the offset zero has a plus sign. -/
def readOffset? (cs : List Char) : Option (List Char × List Char) :=
  match cs with
  | [] => some ([], [])
  | sign :: rest =>
    if sign = 'Z' ∨ sign = 'z' then some (['Z'], rest)
    else if sign = '+' ∨ sign = '-' then do
      let (hours, rest) ← readPair? 0 23 rest
      let (minutes, rest) ← readPair? 0 59 (← expect? ':' rest)
      let sign := if hours = 0 ∧ minutes = 0 then '+' else sign
      some (sign :: (cs.drop 1).take 5, rest)
    else some ([], cs)

/-- Whether a text begins like a date. -/
def startsDate (cs : List Char) : Bool :=
  match readFixed? 4 cs with
  | some (_, '-' :: _) => true
  | _ => false

/-- Whether a text begins like a time of day. -/
def startsTime (cs : List Char) : Bool :=
  match readPair? 0 23 cs with
  | some (_, ':' :: _) => true
  | _ => false

/-- A date, a time of day, or both with a `T` between them and perhaps an offset, and the text after
it. -/
def readDateTime? (cs : List Char) : Option (List Char × List Char) :=
  if startsDate cs then do
    let (date, rest) ← readDate? cs
    match rest with
    | [] => some (date, [])
    | c :: afterMark =>
      if (c = 'T' ∨ c = 't' ∨ c = ' ') ∧ startsTime afterMark then
        let (time, rest) ← readTime? afterMark
        let (offset, rest) ← readOffset? rest
        some (date ++ 'T' :: time ++ offset, rest)
      else some (date, rest)
  else readTime? cs

end DashQuery.Toml
