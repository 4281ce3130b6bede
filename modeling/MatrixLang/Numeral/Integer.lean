/-!
# Integer numerals

A signed numeral is read exactly or not at all: an optional sign, at least one
ASCII digit and nothing else, with a value that fits into 32 bits.
-/

namespace MatrixLang
namespace Numeral

/-- Splits an optional sign off a text and tells whether it was a minus. -/
def splitSign : List Char -> Bool × List Char
  | '+' :: rest => (false, rest)
  | '-' :: rest => (true, rest)
  | text => (false, text)

/-- The value of a run of decimal digits. -/
def natural (digits : List Char) : Nat :=
  Nat.ofDigitChars 10 digits 0

/-- The value of a text of digits, if it is one. -/
def natural? (text : List Char) : Option Nat :=
  if text ≠ [] ∧ text.all Char.isDigit then some (natural text) else none

/-- The value of a text of digits behind an optional sign, if it is one. -/
def integer? (text : List Char) : Option Int :=
  let (negative, rest) := splitSign text
  (natural? rest).map fun (value : Nat) =>
    if negative then -(value : Int) else value

/-- The value of a signed numeral, if it fits into 32 bits. -/
def int32? (text : String) : Option Int32 :=
  (integer? text.toList).bind fun value =>
    if -0x80000000 ≤ value ∧ value < 0x80000000 then
      some (Int32.ofInt value)
    else
      none

/-- The canonical numeral of a 32-bit integer. -/
def ofInt32 (value : Int32) : String :=
  value.toInt.repr

/-- A numeral is read with the value of its digits. -/
theorem toInt_of_int32?
    {text : String}
    {value : Int32}
    (found : int32? text = some value) :
    integer? text.toList = some value.toInt := by
  obtain ⟨integer, read, found⟩ := Option.bind_eq_some_iff.1 found
  split at found
  · next bounds =>
      cases found
      rw [read,
        Int32.toInt_ofInt_of_le (by simpa using bounds.1)
          (by simpa using bounds.2)]
  · cases found

end Numeral
end MatrixLang
