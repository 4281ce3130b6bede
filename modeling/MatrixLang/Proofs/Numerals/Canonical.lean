import MatrixLang.Proofs.Numerals.Integer
import Mathlib.Data.List.Basic
import Mathlib.Data.Nat.Digits.Defs

/-!
# The values of digits

A text of digits stands for the sum of its digits, each times the power of ten
of its place.  Reading is exact: `int32?_of_le` and `int32?_of_lt` say that such
a text, however long it is and however many zeros it starts with, is read as
this value up to the 32-bit limit and not read at all beyond it.

A numeral is canonical if it starts with no needless zero.  Every natural number
has exactly one canonical numeral, which `isCanonical_iff` names.
-/

namespace MatrixLang
namespace Numeral

/-! ## Places -/

/-- The digits of a text as numbers, the units first. -/
def places (text : List Char) : List Nat :=
  (text.map fun character => character.toNat - '0'.toNat).reverse

/--
The sum of the digits of a text, each times the power of ten of its place.
-/
def placeValue (text : List Char) : Nat :=
  Nat.ofDigits 10 (places text)

theorem places_cons
    (character : Char)
    (text : List Char) :
    places (character :: text) =
      places text ++ [character.toNat - '0'.toNat] := by
  rw [places, List.map_cons, List.reverse_cons, places]

theorem length_places
    (text : List Char) :
    (places text).length = text.length := by
  rw [places, List.length_reverse, List.length_map]

/-- Reading digits one after the other gives the value of their places. -/
theorem natural_eq_placeValue
    (text : List Char) :
    natural text = placeValue text := by
  induction text with
  | nil => rfl
  | cons character text inductionHypothesis =>
      calc
        natural (character :: text)
        _ = 10 ^ text.length * (character.toNat - '0'.toNat) +
          natural text := by
          rw [natural, Nat.ofDigitChars_cons,
            Nat.ofDigitChars_eq_ofDigitChars_zero, Nat.mul_zero, Nat.zero_add,
            natural]
        _ = placeValue text + 10 ^ (places text).length *
          (character.toNat - '0'.toNat) := by
          rw [inductionHypothesis, length_places, Nat.add_comm]
        _ = placeValue (character :: text) := by
          rw [placeValue, placeValue, places_cons, Nat.ofDigits_append,
            Nat.ofDigits_singleton]

/-! ## Exact reading -/

/-- Digits are read as the value of their places. -/
theorem integer?_of_isDigit
    {text : List Char}
    (nonempty : text ≠ [])
    (digits : ∀ character ∈ text, character.isDigit = true) :
    integer? text = some (placeValue text : Int) := by
  have unsigned : splitSign text = (false, text) := by
    apply splitSign_of_isDigit
    intro character first
    exact digits character (List.mem_of_mem_head? first)
  have read : natural? text = some (placeValue text) := by
    rw [natural?, if_pos ⟨nonempty, List.all_eq_true.2 digits⟩,
      natural_eq_placeValue]
  rw [integer?, unsigned]
  simp only [read, Option.map_some, Bool.false_eq_true, if_false]

section Digits

variable {text : String}
  (nonempty : text.toList ≠ [])
  (digits : ∀ character ∈ text.toList, character.isDigit = true)

include nonempty digits

/-- Digits whose value fits into 32 bits are read as exactly this value. -/
theorem int32?_of_le
    (fits : placeValue text.toList ≤ 2147483647) :
    ∃ value,
      int32? text = some value ∧ value.toInt = placeValue text.toList := by
  have read : int32? text = some (Int32.ofInt (placeValue text.toList)) := by
    rw [int32?, integer?_of_isDigit nonempty digits, Option.bind_some,
      if_pos (by omega)]
  refine ⟨_, read, ?_⟩
  have same := toInt_of_int32? read
  rw [integer?_of_isDigit nonempty digits] at same
  exact (Option.some.inj same).symm

/-- Digits whose value does not fit into 32 bits are not read. -/
theorem int32?_of_lt
    (beyond : 2147483647 < placeValue text.toList) :
    int32? text = none := by
  rw [int32?, integer?_of_isDigit nonempty digits, Option.bind_some,
    if_neg (by omega)]

end Digits

/-! ## Canonical numerals -/

/-- A numeral of a natural number that starts with no needless zero. -/
structure IsCanonical (value : Nat) (text : List Char) : Prop where
  /-- There is a digit. -/
  nonempty : text ≠ []
  /-- There are only digits. -/
  digits : ∀ character ∈ text, character.isDigit = true
  /-- Only zero itself starts with a zero. -/
  leading : text.head? = some '0' -> text = ['0']
  /-- The places have the value of the number. -/
  value_eq : placeValue text = value

/-- Every digit is the digit of a number below ten. -/
theorem exists_digitChar
    {character : Char}
    (digit : character.isDigit = true) :
    ∃ value < 10, Nat.digitChar value = character := by
  obtain ⟨low, high⟩ := Char.isDigit_iff_toNat.1 digit
  simp only [Char.reduceToNat] at low high
  refine ⟨character.toNat - 48, by omega, ?_⟩
  apply Char.toNat_inj.1
  rw [Nat.toNat_digitChar_of_lt_ten (by omega)]
  omega

/--
Digits behind those of a positive number are the last digits of what both stand
for.
-/
theorem toDigits_append
    {value : Nat}
    {text : List Char}
    (positive : 0 < value)
    (digits : ∀ character ∈ text, character.isDigit = true) :
    Nat.toDigits 10 value ++ text =
      Nat.toDigits 10 (Nat.ofDigitChars 10 text value) := by
  -- The front stays positive, so no zero behind it is ever a leading one.
  induction text generalizing value with
  | nil => rw [List.append_nil, Nat.ofDigitChars_nil]
  | cons character text inductionHypothesis =>
      obtain ⟨digit, others⟩ := List.forall_mem_cons.1 digits
      obtain ⟨last, small, rfl⟩ := exists_digitChar digit
      have one : Nat.toDigits 10 value ++ [last.digitChar] =
          Nat.toDigits 10 (10 * value + last) := by
        rw [← Nat.toDigits_append_toDigits (by decide) positive small,
          Nat.toDigits_of_lt_base small]
      rw [List.append_cons, one, inductionHypothesis (by omega) others,
        Nat.ofDigitChars_cons_digitChar_of_lt_ten small]

/-- The digits of a number start with a zero only if the number is zero. -/
theorem head?_toDigits
    {value : Nat}
    (leading : (Nat.toDigits 10 value).head? = some '0') : value = 0 := by
  induction value using Nat.base_induction 10 (by decide) with
  | single digit small =>
      rw [Nat.toDigits_of_lt_base small] at leading
      exact Nat.digitChar_eq_zero.1 (Option.some.inj leading)
  | digit front last small positive inductionHypothesis =>
      rw [← Nat.toDigits_append_toDigits (by decide) positive small,
        List.head?_append_of_ne_nil _ Nat.toDigits_ne_nil] at leading
      have zero := inductionHypothesis leading
      omega

/-- A canonical numeral consists of the digits of its value. -/
theorem IsCanonical.eq_toDigits
    {value : Nat}
    {text : List Char}
    (canonical : IsCanonical value text) : text = Nat.toDigits 10 value := by
  obtain ⟨nonempty, digits, leading, rfl⟩ := canonical
  rw [← natural_eq_placeValue, natural]
  cases text with
  | nil => exact absurd rfl nonempty
  | cons character text =>
      obtain ⟨digit, others⟩ := List.forall_mem_cons.1 digits
      obtain ⟨first, small, rfl⟩ := exists_digitChar digit
      rcases Nat.eq_zero_or_pos first with rfl | positive
      · rw [leading rfl]
        rfl
      · rw [Nat.ofDigitChars_cons_digitChar_of_lt_ten small, Nat.mul_zero,
          Nat.zero_add, ← toDigits_append positive others,
          Nat.toDigits_of_lt_base small, List.singleton_append]

/-- The digits of a number are a canonical numeral. -/
theorem isCanonical_toDigits
    (value : Nat) :
    IsCanonical value (Nat.toDigits 10 value) where
  nonempty := Nat.toDigits_ne_nil
  digits := fun _ member => isDigit_toDigits member
  leading := by
    intro leading
    rw [head?_toDigits leading, Nat.toDigits_zero]
  value_eq := by
    rw [← natural_eq_placeValue, natural, Nat.ofDigitChars_ten_toDigits]

/--
The canonical numeral of a number consists of its digits, and there is no other.
-/
theorem isCanonical_iff
    {value : Nat}
    {text : List Char} :
    IsCanonical value text ↔ text = Nat.toDigits 10 value := by
  constructor
  · exact IsCanonical.eq_toDigits
  · rintro rfl
    exact isCanonical_toDigits value

end Numeral
end MatrixLang
