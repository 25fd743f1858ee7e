import DashQuery.Text.Property

/-!
# Letters and numerals

Letters are the alphabetic characters and numerals the characters with a numeric category, those of
a version of the standard that is newer than the one of the property tables included.
-/

namespace DashQuery.Text

/-- The alphabetic characters that the property tables do not know. -/
def recentLetters : List (Nat × Nat) :=
  Property.decode
    ["DGhaBLkaExaCGRpbcabaBcaBKWczCBjcBybESahWmBrBEPgycyLaeJCjhBXpvDtEkBHQjBebvibDAWgfIWglBGFaGJh"]

/-- The numerals that the property tables do not know. -/
def recentNumerals : List (Nat × Nat) := Property.decode ["EEGujBFBuc"]

/-- The alphabetic characters. -/
def letterRanges : List (Nat × Nat) :=
  (Property.binary? "alphabetic").getD [] ++ recentLetters

/-- The characters with a numeric category. -/
def numeralRanges : List (Nat × Nat) :=
  (Property.category? "n").getD [] ++ recentNumerals

/-- Whether a character is alphabetic. -/
def isLetter (c : Char) : Bool := c.isAlpha || inRanges letterRanges c.toNat

/-- Whether a character stands for a number or a digit. -/
def isNumeral (c : Char) : Bool := c.isDigit || inRanges numeralRanges c.toNat

end DashQuery.Text
