import MatrixLang.Numeral.Decimal

/-!
# Single-precision numbers

The numbers of the binary format with 24 significant bits.  The finite
magnitudes are numbered in ascending order: a magnitude of rank `r` below
`2 ^ 24` is `r` units of `2 ^ -149`, and each further block of `2 ^ 23` ranks
doubles the distance between neighbours.  The infinite magnitude comes next, and
the ranks behind it are taken by values that are not numbers.  With the sign in
front, the rank is the stored bit pattern.
-/

namespace MatrixLang

/-- A single-precision number: any bit pattern of the format. -/
structure Single where
  /-- The sign bit. -/
  negative : Bool
  /-- The number of smaller magnitudes. -/
  rank : Nat
  /-- A rank has one bit less than the format. -/
  bounded : rank < 0x80000000
deriving DecidableEq

namespace Single

/-- The rank of the infinite magnitude. -/
def infiniteRank : Nat := 0x7f800000

/-- A number is finite when its rank is below that of the infinite magnitude. -/
def IsFinite (single : Single) : Prop :=
  single.rank < infiniteRank

instance (single : Single) : Decidable single.IsFinite :=
  inferInstanceAs (Decidable (_ < _))

/-- The infinite number of a sign. -/
def infinite (negative : Bool) : Single := ⟨negative, infiniteRank, by decide⟩

/-- The value of a sign that is not a number and signals nothing. -/
def notNumber (negative : Bool) : Single := ⟨negative, 0x7fc00000, by decide⟩

/--
The quotient of two numbers, rounded to the nearest integer and from a half to
the even one.
-/
def roundQuotient (numerator denominator : Nat) : Nat :=
  let quotient := numerator / denominator
  let twice := 2 * (numerator % denominator)
  if twice < denominator then quotient
  else if denominator < twice then quotient + 1
  else quotient + quotient % 2

/-- Magnitudes are counted in units of `2 ^ -149`, of which one has so many. -/
def unitsPerOne : Nat := Nat.pow 2 149

/--
The number of bits below the significant ones in a magnitude of so many units.
-/
def shiftFor (units : Nat) : Nat :=
  if units < 0x1000000 then 0 else units.log2 - 23

/--
The rank of the magnitude nearest to a quotient, which may be too large to be
finite.
-/
def rankOfQuotient (numerator denominator : Nat) : Nat :=
  let shift := shiftFor (numerator * unitsPerOne / denominator)
  shift * 0x800000 +
    roundQuotient (numerator * unitsPerOne) (denominator * Nat.pow 2 shift)

/-- The number nearest to a signed decimal, which is infinite on overflow. -/
def ofDecimal (negative : Bool) (decimal : Decimal) : Single :=
  let rank := rankOfQuotient decimal.numerator decimal.denominator
  if finite : rank < infiniteRank then
    ⟨negative, rank, Nat.lt_trans finite (by decide)⟩
  else
    infinite negative

/-- Reads the word of a value that is not finite, in letters of either case. -/
def ofWord? (negative : Bool) (word : List Char) : Option Single :=
  let letters := word.map Char.toLower
  if letters = "inf".toList ∨ letters = "infinity".toList then
    some (infinite negative)
  else if letters = "nan".toList then
    some (notNumber negative)
  else
    none

/--
Reads a sign, and a numeral as the nearest number or a word as what it names.
-/
def ofNumeral? (text : String) : Option Single :=
  let (negative, rest) := Numeral.splitSign text.toList
  match Decimal.ofNumeral? rest with
  | some decimal => some (ofDecimal negative decimal)
  | none => ofWord? negative rest

/-- The value of a literal, which must be finite. -/
def ofLiteral? (text : String) : Option Single :=
  (ofNumeral? text).filter fun single => single.IsFinite

/-- A literal has the value of its numeral, if that is finite. -/
theorem ofLiteral?_eq_some
    {text : String}
    {single : Single} :
    ofLiteral? text = some single ↔
      ofNumeral? text = some single ∧ single.IsFinite := by
  simp [ofLiteral?, Option.filter_eq_some_iff]

example :
    ofNumeral? "1e39" = some (infinite false) ∧ ofLiteral? "1e39" = none := by
  decide

/-- The distance between neighbours is this power of two, in units. -/
def shift (single : Single) : Nat :=
  single.rank / 0x800000 - 1

/-- The significant bits of a number. -/
def significand (single : Single) : Nat :=
  single.rank - single.shift * 0x800000

/-- The magnitude of a number in units. -/
def units (single : Single) : Nat :=
  single.significand * Nat.pow 2 single.shift

/-- The stored bit pattern. -/
def bits (single : Single) : Nat :=
  (if single.negative then 0x80000000 else 0) + single.rank

end Single
end MatrixLang
