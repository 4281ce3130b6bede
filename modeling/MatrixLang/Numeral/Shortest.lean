import MatrixLang.Numeral.Single

/-!
# Shortest decimals

The shortest decimal that reads back as a given number, and the text of a
number in that form.  On each grid of one, two and more digits the two
neighbours of the number are tried; the first grid with a hit wins, and of two
hits the nearer one.  The exact decimal expansion stands behind the grids, so
the result always reads back.
-/

namespace MatrixLang
namespace Single

/-- Nine digits tell any two single-precision numbers apart. -/
def digitLimit : Nat := 9

/-- The exact decimal value of a magnitude. -/
def exactDecimal (single : Single) : Decimal :=
  ⟨single.units * Nat.pow 5 149, -149⟩

/--
The exponent `k` with `10 ^ (k - 1) ≤ magnitude < 10 ^ k`, for a magnitude that
is not zero.
-/
def decimalExponent (single : Single) : Int :=
  (Nat.toDigits 10 (single.units * Nat.pow 10 45 / unitsPerOne)).length - 45

/-- A decimal reads back when it rounds to the magnitude of the number. -/
def ReadsBack (single : Single) (decimal : Decimal) : Prop :=
  rankOfQuotient decimal.numerator decimal.denominator = single.rank

instance
    (single : Single)
    (decimal : Decimal) : Decidable (single.ReadsBack decimal) :=
  inferInstanceAs (Decidable (_ = _))

/--
The largest decimal on the grid of `10 ^ exponent` that is not above the
magnitude.
-/
def below (single : Single) (exponent : Int) : Decimal :=
  ⟨single.units * Nat.pow 10 (-exponent).toNat /
    (unitsPerOne * Nat.pow 10 exponent.toNat), exponent⟩

/-- The next decimal on the grid of `10 ^ exponent`. -/
def above (single : Single) (exponent : Int) : Decimal :=
  ⟨(single.below exponent).digits + 1, exponent⟩

/-- The lower neighbour on a grid is the nearer one. -/
def NearerBelow (single : Single) (exponent : Int) : Prop :=
  2 * (single.units * Nat.pow 10 (-exponent).toNat) <
    (2 * (single.below exponent).digits + 1) *
      (unitsPerOne * Nat.pow 10 exponent.toNat)

instance
    (single : Single)
    (exponent : Int) : Decidable (single.NearerBelow exponent) :=
  inferInstanceAs (Decidable (_ < _))

/--
The nearer of the neighbours on a grid that read back; the upper one from
halfway.
-/
def onGrid? (single : Single) (exponent : Int) : Option Decimal :=
  if single.ReadsBack (single.below exponent) ∧
      (single.NearerBelow exponent ∨
        ¬ single.ReadsBack (single.above exponent)) then
    some (single.below exponent)
  else if single.ReadsBack (single.above exponent) then
    some (single.above exponent)
  else
    none

/-- A shortest decimal that reads back as the magnitude of a number. -/
def shortest (single : Single) : Decimal :=
  let grids := (List.range digitLimit).map fun (count : Nat) =>
    single.decimalExponent - (count + 1)
  ((grids.findSome? single.onGrid?).getD single.exactDecimal).normalize

/-- How the text of a number places its digits. -/
structure Layout where
  /-- The least exponent of the leading digit that is written positionally. -/
  leastPlain : Int
  /--
  The greatest exponent of the leading digit that is written positionally.
  -/
  greatestPlain : Int

/--
Numbers from one ten-thousandth up to ten to the sixteenth are written
positionally.
-/
def layout : Layout := ⟨-4, 15⟩

/-- A positional numeral, with at least one digit behind its point. -/
def plain (digits : List Char) (exponent : Int) : List Char :=
  if 0 ≤ exponent then
    digits ++ List.replicate exponent.toNat '0' ++ ['.', '0']
  else
    let places := (-exponent).toNat
    let padded := digits.leftpad (places + 1) '0'
    padded.take (padded.length - places) ++
      '.' :: padded.drop (padded.length - places)

/--
A numeral with one digit before its point, if it has a point, and an exponent.
-/
def scientific (digits : List Char) (leading : Int) : List Char :=
  let fraction := if digits.length = 1 then [] else '.' :: digits.drop 1
  digits.take 1 ++ fraction ++ 'e' :: leading.repr.toList

/-- The numeral of a decimal. -/
def numeral (decimal : Decimal) : List Char :=
  let digits := Nat.toDigits 10 decimal.digits
  let leading := decimal.exponent + digits.length - 1
  if decimal.digits = 0 ∨
      (layout.leastPlain ≤ leading ∧ leading ≤ layout.greatestPlain) then
    plain digits decimal.exponent
  else
    scientific digits leading

/--
The text of a magnitude: the numeral of a shortest decimal, or the word of an
infinite one.
-/
def magnitudeText (single : Single) : List Char :=
  if single.rank = 0 then
    numeral ⟨0, 0⟩
  else if single.IsFinite then
    numeral single.shortest
  else
    "inf".toList

/--
The text of a number: its sign and its magnitude.  A value that is not a number
has no sign.
-/
def text (single : Single) : String :=
  if single.rank ≤ infiniteRank then
    String.ofList ((if single.negative then ['-'] else []) ++
      single.magnitudeText)
  else
    "NaN"

end Single
end MatrixLang
