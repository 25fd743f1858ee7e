/-!
# Reading decimal numbers

A decimal is an optional sign, digits with at most one point among or around them, and an optional
exponent; `inf`, `infinity` and `nan` are read in any case of letters.  The value is the
floating-point number nearest to the decimal.
-/

namespace DashQuery.Decimal

/-- The value of a digit. -/
def digitValue (c : Char) : Nat := c.toNat - '0'.toNat

/-- The number that a row of decimal digits stands for. -/
def digitsValue (cs : List Char) : Nat := cs.foldl (fun n c => n * 10 + digitValue c) 0

/-- The sign in front of a number, negative or not, and the text after it. -/
def splitSign : List Char → Bool × List Char
  | '-' :: cs => (true, cs)
  | '+' :: cs => (false, cs)
  | cs => (false, cs)

/-- An exponent that takes up the whole text: nothing, or `e`, a sign and digits. -/
def readExponent? : List Char → Option Int
  | [] => some 0
  | c :: cs =>
    if c = 'e' ∨ c = 'E' then
      let (negative, digits) := splitSign cs
      if digits ≠ [] ∧ digits.all Char.isDigit then
        some (if negative then - (digitsValue digits : Int) else digitsValue digits)
      else none
    else none

/-- The floating-point number nearest to `mantissa * 10 ^ exponent`.  Decimals far out of range
are settled by their size alone. -/
def nearestFloat (mantissa : Nat) (exponent : Int) : Float :=
  let size := (Nat.toDigits 10 mantissa).length + exponent
  if mantissa = 0 ∨ size < -330 then 0
  else if 320 < size then 1 / 0
  else if exponent < 0 then .ofScientific mantissa true exponent.natAbs
  else .ofScientific mantissa false exponent.natAbs

/-- The number without sign that takes up the whole text. -/
def readMagnitude? (cs : List Char) : Option Float :=
  let word := cs.map Char.toLower
  if word = "inf".toList ∨ word = "infinity".toList then some (1 / 0)
  else if word = "nan".toList then some (0 / 0)
  else
    let whole := cs.takeWhile Char.isDigit
    let rest := cs.dropWhile Char.isDigit
    let (fraction, rest) := match rest with
      | '.' :: r => (r.takeWhile Char.isDigit, r.dropWhile Char.isDigit)
      | r => ([], r)
    if whole = [] ∧ fraction = [] then none
    else
      (readExponent? rest).map fun exponent =>
        nearestFloat (digitsValue (whole ++ fraction)) (exponent - fraction.length)

/-- The number that takes up the whole text. -/
def readFloat? (cs : List Char) : Option Float :=
  let (negative, rest) := splitSign cs
  (readMagnitude? rest).map fun x => if negative then -x else x

end DashQuery.Decimal
