import MatrixLang.Numeral.Integer

/-!
# Integer numerals read back

The numeral of an integer that is not negative consists of digits and is read as
that integer.  A numeral without a sign never stands for a negative integer, so
every integer that a numeral of digits stands for has such a numeral.
-/

namespace MatrixLang
namespace Numeral

theorem isDigit_toDigits
    {value : Nat}
    {character : Char}
    (member : character ∈ Nat.toDigits 10 value) : character.isDigit = true :=
  Nat.isDigit_of_mem_toDigits (by decide) (by decide) member

/-- A text that starts with a digit has no sign. -/
theorem splitSign_of_isDigit
    {text : List Char}
    (unsigned : ∀ character ∈ text.head?, character.isDigit = true) :
    splitSign text = (false, text) := by
  unfold splitSign
  split
  · next rest => exact absurd (unsigned '+' rfl) (by decide)
  · next rest => exact absurd (unsigned '-' rfl) (by decide)
  · rfl

/-- Canonical digits have no sign. -/
theorem splitSign_toDigits
    (value : Nat) :
    splitSign (Nat.toDigits 10 value) = (false, Nat.toDigits 10 value) := by
  apply splitSign_of_isDigit
  intro character first
  exact isDigit_toDigits (List.mem_of_mem_head? first)

theorem natural?_toDigits
    (value : Nat) :
    natural? (Nat.toDigits 10 value) = some value := by
  have digits : (Nat.toDigits 10 value).all Char.isDigit = true := by
    rw [List.all_eq_true]
    exact fun character member => isDigit_toDigits member
  rw [natural?, if_pos ⟨Nat.toDigits_ne_nil, digits⟩, natural,
    Nat.ofDigitChars_ten_toDigits]

/-- The value of a numeral without a sign is not negative. -/
theorem nonneg_of_int32?
    {text : String}
    {value : Int32}
    (unsigned : ∀ character ∈ text.toList.head?, character.isDigit = true)
    (found : int32? text = some value) : 0 ≤ value.toInt := by
  have read := toInt_of_int32? found
  rw [integer?, splitSign_of_isDigit unsigned] at read
  obtain ⟨natural, -, same⟩ := Option.map_eq_some_iff.1 read
  rw [← same]
  exact Int.natCast_nonneg natural

/-- The numeral of an integer that is not negative consists of its digits. -/
theorem toList_ofInt32
    {value : Int32}
    (nonneg : 0 ≤ value.toInt) :
    (ofInt32 value).toList = Nat.toDigits 10 value.toInt.toNat := by
  rw [ofInt32, Int.repr_eq_if, if_pos nonneg, Nat.toList_repr]

/-- The numeral of an integer that is not negative is read as that integer. -/
theorem int32?_ofInt32
    {value : Int32}
    (nonneg : 0 ≤ value.toInt) : int32? (ofInt32 value) = some value := by
  have read : integer? (ofInt32 value).toList = some value.toInt := by
    rw [toList_ofInt32 nonneg, integer?, splitSign_toDigits]
    simp only [natural?_toDigits, Option.map_some, Bool.false_eq_true, if_false]
    rw [Int.toNat_of_nonneg nonneg]
  have above := value.toInt_lt
  rw [int32?, read, Option.bind_some, if_pos (by omega), Int32.ofInt_toInt]

end Numeral
end MatrixLang
