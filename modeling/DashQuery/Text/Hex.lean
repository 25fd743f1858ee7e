/-!
# Hexadecimal digits
-/

namespace DashQuery.Text

/-- The value of a hexadecimal digit. -/
def hexValue? (c : Char) : Option Nat :=
  if c.isDigit then some (c.toNat - '0'.toNat)
  else if 'a' ≤ c ∧ c ≤ 'f' then some (c.toNat - 'a'.toNat + 10)
  else if 'A' ≤ c ∧ c ≤ 'F' then some (c.toNat - 'A'.toNat + 10)
  else none

/-- The number that a row of hexadecimal digits stands for. -/
def hexNumber? (digits : List Char) : Option Nat :=
  (digits.mapM hexValue?).map fun values => values.foldl (fun n v => n * 16 + v) 0

/-- The character whose number is written in at least one hexadecimal digit. -/
def charOfHex? (digits : List Char) : Option Char :=
  match hexNumber? digits with
  | some n => if digits ≠ [] ∧ n.isValidChar then some (Char.ofNat n) else none
  | none => none

/-- The character given by its number in exactly `count` hexadecimal digits at the front. -/
def readHexChar? (count : Nat) (cs : List Char) : Option (Char × List Char) :=
  if (cs.take count).length = count then (charOfHex? (cs.take count)).map (·, cs.drop count)
  else none

theorem readHexChar?_length_le {count : Nat} {cs rest : List Char} {c : Char}
    (h : readHexChar? count cs = some (c, rest)) : rest.length ≤ cs.length := by
  unfold readHexChar? at h
  split at h
  · simp only [Option.map_eq_some_iff, Prod.mk.injEq] at h
    obtain ⟨d, -, -, rfl⟩ := h
    simp only [List.length_drop]
    omega
  · cases h

/-- A hexadecimal digit in lower case. -/
def hexDigit (n : Nat) : Char :=
  if n < 10 then Char.ofNat ('0'.toNat + n) else Char.ofNat ('a'.toNat + (n - 10))

/-- The two hexadecimal digits of a number below 256. -/
def hexPair (n : Nat) : List Char := [hexDigit (n / 16), hexDigit (n % 16)]

end DashQuery.Text
