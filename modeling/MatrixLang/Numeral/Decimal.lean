import MatrixLang.Numeral.Integer

/-!
# Decimal numerals

A decimal is a natural number scaled by a power of ten.  Its numerals have
digits around an optional point and an optional exponent.
-/

namespace MatrixLang

/-- The number `digits * 10 ^ exponent`. -/
structure Decimal where
  /-- The digits, as one natural number. -/
  digits : Nat
  /-- The power of ten that scales the digits. -/
  exponent : Int
deriving DecidableEq

namespace Decimal

/-- The numerator of a decimal over `denominator`. -/
def numerator (decimal : Decimal) : Nat :=
  decimal.digits * Nat.pow 10 decimal.exponent.toNat

/-- The power of ten below `numerator`. -/
def denominator (decimal : Decimal) : Nat :=
  Nat.pow 10 (-decimal.exponent).toNat

/--
Exponents are read up to here; a longer one is far outside every number format
anyway.
-/
def exponentLimit : Nat := 0x10000

/-- The value of the digits of an exponent, which stops growing at the limit. -/
def exponentValue (digits : List Char) : Nat :=
  digits.foldl
    (fun value digit =>
      if value < exponentLimit then
        10 * value + (digit.toNat - '0'.toNat)
      else
        value)
    0

/--
Reads what follows the digits of a numeral: nothing, or a mark and a signed
exponent.
-/
def exponent? : List Char -> Option Int
  | [] => some 0
  | mark :: rest =>
      let (negative, digits) := Numeral.splitSign rest
      if (mark = 'e' ∨ mark = 'E') ∧ digits ≠ [] ∧ digits.all Char.isDigit then
        some
          (if negative then -(exponentValue digits : Int)
            else exponentValue digits)
      else
        none

/-- Splits an optional fraction off a text; a point may stand without digits. -/
def splitFraction : List Char -> List Char × List Char
  | '.' :: rest => (rest.takeWhile Char.isDigit, rest.dropWhile Char.isDigit)
  | text => ([], text)

/-- Reads an unsigned numeral, which has a digit before or behind its point. -/
def ofNumeral? (text : List Char) : Option Decimal :=
  let whole := text.takeWhile Char.isDigit
  let (fraction, rest) := splitFraction (text.dropWhile Char.isDigit)
  if whole = [] ∧ fraction = [] then
    none
  else
    (exponent? rest).map fun exponent =>
      ⟨Numeral.natural (whole ++ fraction), exponent - fraction.length⟩

/--
The same number without trailing zeros among its digits, of which `fuel` are
looked at.
-/
def stripZeros : (fuel : Nat) -> Decimal -> Decimal
  | 0, decimal => decimal
  | fuel + 1, decimal =>
      if decimal.digits ≠ 0 ∧ decimal.digits % 10 = 0 then
        stripZeros fuel ⟨decimal.digits / 10, decimal.exponent + 1⟩
      else
        decimal

/-- The same number without trailing zeros among its digits. -/
def normalize (decimal : Decimal) : Decimal :=
  decimal.stripZeros (Nat.toDigits 10 decimal.digits).length

end Decimal
end MatrixLang
