import DashQuery.Decimal.Shortest

/-!
# Plain decimal text

Floating-point numbers are written with the fewest digits that read back, never with an exponent
and without a fraction that is zero: `0.95`, `1`, `10000000000000000000000`.  The sign of a
negative zero is kept; the values beyond the finite ones are `inf`, `-inf` and `NaN`.
-/

namespace DashQuery.Decimal

/-- The digits of the fraction `n / 10 ^ places`, without the zeros at the end. -/
def fractionDigits (places n : Nat) : List Char :=
  let digits := Nat.toDigits 10 n
  ((List.replicate (places - digits.length) '0' ++ digits).reverse.dropWhile (· == '0')).reverse

/-- A decimal in positional notation. -/
def Numeral.plain (d : Numeral) : List Char :=
  if 0 ≤ d.exponent then Nat.toDigits 10 (d.digits * Nat.pow 10 d.exponent.toNat)
  else
    let places := (-d.exponent).toNat
    let whole := Nat.toDigits 10 (d.digits / Nat.pow 10 places)
    match fractionDigits places (d.digits % Nat.pow 10 places) with
    | [] => whole
    | fraction => whole ++ '.' :: fraction

/-- What the 64 bits of a floating-point number stand for. -/
inductive Contents where
  | nan
  | infinite (negative : Bool)
  | zero (negative : Bool)
  | finite (negative : Bool) (magnitude : Binary)
  deriving DecidableEq, Repr

/-- The meaning of the sign bit, the 11 bits of the exponent and the 52 of the fraction. -/
def Contents.ofBits (bits : Nat) : Contents :=
  let negative := bits / Nat.pow 2 63 == 1
  let exponent : Nat := bits / Nat.pow 2 52 % Nat.pow 2 11
  let fraction : Nat := bits % Nat.pow 2 52
  if exponent = 2047 then
    if fraction = 0 then .infinite negative else .nan
  else if exponent = 0 then
    if fraction = 0 then .zero negative else .finite negative ⟨fraction, -1074⟩
  else .finite negative ⟨Nat.pow 2 52 + fraction, (exponent : Int) - 1075⟩

/-- The sign of a number. -/
def signText (negative : Bool) : List Char := if negative then ['-'] else []

/-- The plain text of a number given by its bits. -/
def Contents.plain : Contents → List Char
  | .nan => ['N', 'a', 'N']
  | .infinite negative => signText negative ++ ['i', 'n', 'f']
  | .zero negative => signText negative ++ ['0']
  | .finite negative magnitude => signText negative ++ magnitude.shortest.plain

/-- The plain text of a floating-point number. -/
def plainText (x : Float) : String :=
  String.ofList (Contents.ofBits x.toBits.toNat).plain

end DashQuery.Decimal
