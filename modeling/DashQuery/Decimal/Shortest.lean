/-!
# The shortest decimal of a binary number

A binary number `mantissa * 2 ^ exponent` stands for every real number that rounds to it.  Of the
decimals among them `shortest` takes one with the fewest digits, and of those the one nearest to
the number itself; of two equally near ones it takes the larger.

The grid of decimals with `n` digits is tried for `n = 1, …, 17`.  If a point of a grid lies in the
rounding interval then so does one of the two grid points around the number, so only these two are
tested, in exact arithmetic on natural numbers.
-/

namespace DashQuery.Decimal

/-- The number `mantissa * 2 ^ exponent`. -/
structure Binary where
  mantissa : Nat
  exponent : Int
  deriving DecidableEq, Repr

/-- The number `digits * 10 ^ exponent`. -/
structure Numeral where
  digits : Nat
  exponent : Int
  deriving DecidableEq, Repr

/-- The count of decimal digits of a number, one for zero. -/
def digitCount (n : Nat) : Nat := (Nat.toDigits 10 n).length

/-- The power of ten of the leading digit of the positive fraction `num / den`. -/
def leadingPower (num den : Nat) : Int :=
  if den ≤ num then (digitCount (num / den) : Int) - 1
  else - (digitCount ((den + num - 1) / num - 1) : Int)

/-- The real numbers that round to a binary number, in quarters of its unit in the last place:
the number is `value / unit`, the ends are `low / unit` and `high / unit`. -/
structure Interval where
  low : Nat
  value : Nat
  high : Nat
  unit : Nat
  closed : Bool
  deriving DecidableEq, Repr

/-- The rounding interval.  Below a power of two the neighbour is only half as far away, except
at the least exponent; the ends round to even mantissas only. -/
def Binary.interval (b : Binary) : Interval :=
  let scale := Nat.pow 2 b.exponent.toNat
  let below := if b.mantissa = Nat.pow 2 52 ∧ b.exponent ≠ -1074 then 1 else 2
  { low := (4 * b.mantissa - below) * scale
    value := 4 * b.mantissa * scale
    high := (4 * b.mantissa + 2) * scale
    unit := 4 * Nat.pow 2 (-b.exponent).toNat
    closed := b.mantissa % 2 == 0 }

/-- The interval measured in units of `10 ^ power`. -/
def Interval.inPowersOfTen (i : Interval) (power : Int) : Interval :=
  let up := Nat.pow 10 (-power).toNat
  { i with
    low := i.low * up
    value := i.value * up
    high := i.high * up
    unit := i.unit * Nat.pow 10 power.toNat }

/-- Whether the whole number `n` lies in the interval. -/
def Interval.contains (i : Interval) (n : Nat) : Bool :=
  if i.closed then i.low ≤ n * i.unit && n * i.unit ≤ i.high
  else i.low < n * i.unit && n * i.unit < i.high

/-- The whole number in the interval that is nearest to its value, if one next to it is inside. -/
def Interval.nearest? (i : Interval) : Option Nat :=
  let down := i.value / i.unit
  let up := down + 1
  match i.contains down, i.contains up with
  | true, true => some (if i.value - down * i.unit < up * i.unit - i.value then down else up)
  | true, false => some down
  | false, true => some up
  | false, false => none

/-- The shortest decimal of a positive binary number. -/
def Binary.shortest (b : Binary) : Numeral :=
  let i := b.interval
  let top := leadingPower i.value i.unit
  let grid (n : Nat) : Option Numeral :=
    (i.inPowersOfTen (top - n)).nearest?.map (⟨·, top - n⟩)
  ((List.range 17).findSome? grid).getD ⟨0, 0⟩

end DashQuery.Decimal
