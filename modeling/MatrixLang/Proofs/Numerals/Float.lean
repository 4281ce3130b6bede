import MatrixLang.Numeral.ReadBack
import MatrixLang.Proofs.Numerals.Integer
import MatrixLang.Proofs.Scanning.Lexemes

/-!
# Numerals of single-precision numbers read back

Every text of a finite number that is not negative has one shape: digits, a
fraction or none, an exponent or none.  A numeral of this shape is taken as a
whole by the scanner (`Numeral.float?_shaped`) and read as its digits, scaled
(`Numeral.ofNumeral?_shaped`).  Hence the text of a finite number is read as
that number.
-/

namespace MatrixLang
namespace Numeral

/--
The fraction of a numeral with its point; without digits there is no point.
-/
def pointed (fraction : List Char) : List Char :=
  if fraction = [] then [] else '.' :: fraction

/-- The exponent of a numeral with its mark. -/
def scaled : Option Int -> List Char
  | none => []
  | some exponent => 'e' :: exponent.repr.toList

/-- An exponent is written as its sign and the digits of its magnitude. -/
theorem toList_repr_int
    (exponent : Int) :
    exponent.repr.toList =
      (if exponent < 0 then ['-'] else []) ++
        Nat.toDigits 10 exponent.natAbs := by
  rw [Int.repr_eq_if]
  by_cases negative : exponent < 0
  · have magnitude : (-exponent).toNat = exponent.natAbs := by omega
    rw [if_neg (by omega), if_pos negative, String.toList_append,
      Nat.toList_repr, magnitude]
    rfl
  · have magnitude : exponent.toNat = exponent.natAbs := by omega
    rw [if_pos (by omega), if_neg negative, Nat.toList_repr, magnitude,
      List.nil_append]

/-- Digits of a value below the limit are added up exactly. -/
theorem exponentValue_toDigits
    {value : Nat}
    (small : value < Decimal.exponentLimit) :
    Decimal.exponentValue (Nat.toDigits 10 value) = value := by
  induction value using Nat.strongRecOn with
  | ind value inductionHypothesis =>
      by_cases single : value < 10
      · rw [Nat.toDigits_of_lt_base single]
        simp [Decimal.exponentValue, Decimal.exponentLimit,
          Nat.toNat_digitChar_of_lt_ten single]
      · have front := inductionHypothesis (value / 10) (by omega) (by omega)
        have last : value % 10 < 10 := Nat.mod_lt _ (by decide)
        rw [Decimal.exponentValue] at front
        rw [Nat.toDigits_of_base_le (by decide) (by omega),
          Decimal.exponentValue, List.foldl_append, front]
        simp only [List.foldl_cons, List.foldl_nil,
          Nat.toNat_digitChar_of_lt_ten last]
        have zero : '0'.toNat = 48 := rfl
        rw [if_pos (by omega), zero]
        omega

/-- A written exponent is read. -/
theorem exponent?_scaled
    {exponent : Int}
    (small : exponent.natAbs < Decimal.exponentLimit) :
    Decimal.exponent? (scaled (some exponent)) = some exponent := by
  have digits : (Nat.toDigits 10 exponent.natAbs).all Char.isDigit = true :=
    List.all_eq_true.2 fun character member => isDigit_toDigits member
  have split : splitSign exponent.repr.toList =
      (decide (exponent < 0), Nat.toDigits 10 exponent.natAbs) := by
    rw [toList_repr_int]
    by_cases negative : exponent < 0
    · simp [negative, splitSign]
    · simp [negative, splitSign_toDigits]
  simp only [scaled, Decimal.exponent?, split, exponentValue_toDigits small]
  rw [if_pos ⟨Or.inl trivial, Nat.toDigits_ne_nil, digits⟩, Option.some.injEq]
  by_cases negative : exponent < 0
  · rw [if_pos (decide_eq_true negative)]
    omega
  · rw [if_neg (by simp [negative])]
    omega

/-- An exponent may be absent, and is small enough to be read otherwise. -/
def Moderate (exponent : Option Int) : Prop :=
  ∀ value ∈ exponent, value.natAbs < Decimal.exponentLimit

theorem exponent?_scaled_getD
    {exponent : Option Int}
    (moderate : Moderate exponent) :
    Decimal.exponent? (scaled exponent) = some (exponent.getD 0) := by
  cases exponent with
  | none => rfl
  | some value => exact exponent?_scaled (moderate value rfl)

/-- Only the mark of an exponent goes on behind the digits. -/
theorem head?_scaled
    {exponent : Option Int}
    {character : Char}
    (first : character ∈ (scaled exponent).head?) : character = 'e' := by
  cases exponent with
  | none => cases first
  | some value =>
      cases first
      rfl

/-- The fraction is split off with its point. -/
theorem splitFraction_pointed
    {fraction : List Char}
    (digits : ∀ character ∈ fraction, character.isDigit = true)
    (exponent : Option Int) :
    Decimal.splitFraction (pointed fraction ++ scaled exponent) =
      (fraction, scaled exponent) := by
  by_cases empty : fraction = []
  · subst empty
    cases exponent with
    | none => rfl
    | some value => rfl
  · have stop : ∀ character ∈ (scaled exponent).head?,
        character.isDigit = false := by
      intro character first
      rw [head?_scaled first]
      rfl
    rw [pointed, if_neg empty, List.cons_append, Decimal.splitFraction,
      Token.Pattern.takeWhile_append digits stop,
        Token.Pattern.dropWhile_append digits stop]

/-- No digit stands behind the digits before the point. -/
theorem isDigit_head?_pointed
    {fraction : List Char}
    {exponent : Option Int}
    {character : Char}
    (first : character ∈ (pointed fraction ++ scaled exponent).head?) :
    character.isDigit = false := by
  by_cases empty : fraction = []
  · rw [pointed, if_pos empty, List.nil_append] at first
    rw [head?_scaled first]
    rfl
  · rw [pointed, if_neg empty] at first
    cases first
    rfl

/--
A numeral is read as its digits, scaled by its exponent and by the length of its
fraction.
-/
theorem ofNumeral?_shaped
    {whole fraction : List Char}
    {exponent : Option Int}
    (nonempty : whole ≠ [])
    (wholeDigits : ∀ character ∈ whole, character.isDigit = true)
    (fractionDigits : ∀ character ∈ fraction, character.isDigit = true)
    (moderate : Moderate exponent) :
    Decimal.ofNumeral? (whole ++ (pointed fraction ++ scaled exponent)) =
      some ⟨natural (whole ++ fraction),
        exponent.getD 0 - fraction.length⟩ := by
  have stop : ∀ character ∈ (pointed fraction ++ scaled exponent).head?,
      character.isDigit = false :=
    fun _ first => isDigit_head?_pointed first
  simp only [Decimal.ofNumeral?,
    Token.Pattern.takeWhile_append wholeDigits stop,
    Token.Pattern.dropWhile_append wholeDigits stop,
    splitFraction_pointed fractionDigits, exponent?_scaled_getD moderate]
  simp [nonempty]

/-- The sign of a written exponent is found before its digits. -/
theorem exponentSign_repr
    (exponent : Int)
    (rest : List Char) :
    Token.Pattern.exponentSign (exponent.repr.toList ++ rest) =
      if exponent < 0 then ['-'] else [] := by
  rw [toList_repr_int]
  by_cases negative : exponent < 0
  · rw [if_pos negative]
    rfl
  · rw [if_neg negative, List.nil_append]
    exact Token.Pattern.exponentSign_digits Nat.toDigits_ne_nil
      (fun _ member => isDigit_toDigits member) rest

/-- A written exponent is taken as a whole. -/
theorem exponent?_scaled_append
    {rest : List Char}
    (stop : Token.stops rest = true)
    (exponent : Int) :
    Token.Pattern.exponent? (scaled (some exponent) ++ rest) =
      some (scaled (some exponent)) := by
  have digits :
      Token.Pattern.digits? (Nat.toDigits 10 exponent.natAbs ++ rest) =
        some (Nat.toDigits 10 exponent.natAbs) :=
    Token.Pattern.digits?_append Nat.toDigits_ne_nil
      (fun _ member => isDigit_toDigits member)
      (Token.Pattern.isDigit_of_stops stop)
  have behind : (exponent.repr.toList ++ rest).drop
      (if exponent < 0 then ['-'] else []).length =
        Nat.toDigits 10 exponent.natAbs ++ rest := by
    rw [toList_repr_int, List.append_assoc, List.drop_left]
  rw [scaled, List.cons_append, Token.Pattern.exponent?, if_pos (Or.inl rfl)]
  simp only [exponentSign_repr, behind, digits, Option.map_some]
  rw [toList_repr_int]

/-- A numeral with a fraction or an exponent is taken as a whole. -/
theorem float?_shaped
    {whole fraction rest : List Char}
    {exponent : Option Int}
    (nonempty : whole ≠ [])
    (wholeDigits : ∀ character ∈ whole, character.isDigit = true)
    (fractionDigits : ∀ character ∈ fraction, character.isDigit = true)
    (marked : fraction ≠ [] ∨ exponent.isSome)
    (stop : Token.stops rest = true) :
    Token.Pattern.float?
        (whole ++ (pointed fraction ++ scaled exponent) ++ rest) =
      some (whole ++ (pointed fraction ++ scaled exponent)) := by
  have scaledStop : ∀ character ∈ (scaled exponent ++ rest).head?,
      character.isDigit = false := by
    intro character first
    cases exponent with
    | none => exact Token.Pattern.isDigit_of_stops stop character first
    | some value =>
        cases first
        rfl
  have optional :
      (Token.Pattern.exponent? (scaled exponent ++ rest)).getD [] =
        scaled exponent := by
    cases exponent with
    | none =>
        rw [scaled, List.nil_append, Token.Pattern.exponent?_of_stops stop,
          Option.getD_none]
    | some value => rw [exponent?_scaled_append stop, Option.getD_some]
  by_cases empty : fraction = []
  · subst empty
    obtain ⟨value, rfl⟩ : ∃ value, exponent = some value :=
      Option.isSome_iff_exists.1 (marked.resolve_left (by simp))
    have run := Token.Pattern.digits?_append nonempty wholeDigits scaledStop
    rw [pointed, if_pos rfl, List.nil_append, List.append_assoc,
      Token.Pattern.float?, run]
    simp only [Option.bind_some, List.drop_left]
    rw [exponent?_scaled_append stop]
    rfl
  · have run : Token.Pattern.digits?
          (whole ++ '.' :: (fraction ++ (scaled exponent ++ rest))) =
        some whole := by
      apply Token.Pattern.digits?_append nonempty wholeDigits
      rintro character ⟨rfl⟩
      rfl
    have taken := Token.Pattern.digits?_append empty fractionDigits scaledStop
    rw [pointed, if_neg empty]
    simp only [List.append_assoc, List.cons_append]
    rw [Token.Pattern.float?, run]
    simp only [Option.bind_some, List.drop_left, Token.Pattern.fraction?, taken,
      Option.map_some, List.length_cons, List.drop_succ_cons, optional]
    simp

/--
A text is the numeral of a decimal: it is taken as a whole and read as that
decimal.
-/
structure Shows (numeral : List Char) (decimal : Decimal) : Prop where
  /-- The numeral starts with a digit. -/
  starts : ∃ digit rest, numeral = digit :: rest ∧ digit.isDigit = true
  /-- The numeral is taken as a whole. -/
  taken : ∀ rest, Token.stops rest = true ->
    Token.Pattern.float? (numeral ++ rest) = some numeral
  /-- The numeral is read as the decimal. -/
  read : Decimal.ofNumeral? numeral = some decimal

/--
A numeral of digits with a fraction or an exponent shows its digits, scaled.
-/
theorem shows_shaped
    (whole fraction : List Char)
    (exponent : Option Int)
    (nonempty : whole ≠ [])
    (wholeDigits : ∀ character ∈ whole, character.isDigit = true)
    (fractionDigits : ∀ character ∈ fraction, character.isDigit = true)
    (marked : fraction ≠ [] ∨ exponent.isSome)
    (moderate : Moderate exponent) :
    Shows (whole ++ (pointed fraction ++ scaled exponent))
      ⟨natural (whole ++ fraction), exponent.getD 0 - fraction.length⟩ where
  starts := by
    cases whole with
    | nil => exact absurd rfl nonempty
    | cons digit rest =>
        exact ⟨digit, _, rfl, wholeDigits digit List.mem_cons_self⟩
  taken :=
    fun _ stop => float?_shaped nonempty wholeDigits fractionDigits marked stop
  read := ofNumeral?_shaped nonempty wholeDigits fractionDigits moderate

end Numeral

namespace Single

open Numeral

/-- Leading zeros do not change a value. -/
theorem natural_leftpad
    (width : Nat)
    (digits : List Char) :
    natural (digits.leftpad width '0') = natural digits := by
  rw [List.leftpad, natural, Nat.ofDigitChars_append,
    Nat.ofDigitChars_replicate_zero, Nat.mul_zero]
  rfl

/--
Digits that are cut by a point show their value, scaled by the digits behind the
point.
-/
theorem shows_cut
    (digits : List Char)
    (places : Nat)
    (areDigits : ∀ character ∈ digits, character.isDigit = true)
    (some : 0 < places)
    (wide : places < digits.length) :
    Shows
      (digits.take (digits.length - places) ++
        '.' :: digits.drop (digits.length - places))
      ⟨natural digits, -places⟩ := by
  have fractionLength :
      (digits.drop (digits.length - places)).length = places := by
    rw [List.length_drop]
    omega
  have whole : digits.take (digits.length - places) ≠ [] := by
    apply List.ne_nil_of_length_pos
    rw [List.length_take]
    omega
  have fraction : digits.drop (digits.length - places) ≠ [] := by
    apply List.ne_nil_of_length_pos
    omega
  have shows := shows_shaped _ _ none whole
    (fun character member => areDigits character (List.mem_of_mem_take member))
    (fun character member => areDigits character (List.mem_of_mem_drop member))
    (Or.inl fraction) (fun value absent => by cases absent)
  rw [List.take_append_drop, fractionLength, pointed, if_neg fraction, scaled,
    List.append_nil, Option.getD_none, Int.zero_sub] at shows
  exact shows

/-- A positional numeral with a fraction shows its decimal. -/
theorem shows_plain_of_neg
    {exponent : Int}
    (value : Nat)
    (negative : exponent < 0) :
    Shows (plain (Nat.toDigits 10 value) exponent) ⟨value, exponent⟩ := by
  have places : -((-exponent).toNat : Int) = exponent := by omega
  have digits :
      ∀ character ∈ (Nat.toDigits 10 value).leftpad ((-exponent).toNat + 1) '0',
      character.isDigit = true := by
    intro character member
    rcases List.mem_append.1 member with isZero | isDigit
    · rw [List.eq_of_mem_replicate isZero]
      rfl
    · exact isDigit_toDigits isDigit
  have wide : (-exponent).toNat <
      ((Nat.toDigits 10 value).leftpad ((-exponent).toNat + 1) '0').length := by
    rw [List.length_leftpad]
    omega
  have shows := shows_cut _ (-exponent).toNat digits (by omega) wide
  rw [natural_leftpad, natural, Nat.ofDigitChars_ten_toDigits, places] at shows
  rw [plain, if_neg (by omega)]
  exact shows

/--
A positional numeral without a fraction shows a decimal with one more zero.
-/
theorem shows_plain_of_nonneg
    {exponent : Int}
    (value : Nat)
    (nonneg : 0 ≤ exponent) :
    Shows (plain (Nat.toDigits 10 value) exponent)
      ⟨value * Nat.pow 10 exponent.toNat * 10, -1⟩ := by
  have digits : ∀ character ∈
        Nat.toDigits 10 value ++ List.replicate exponent.toNat '0' ++ ['0'],
      character.isDigit = true := by
    intro character member
    simp only [List.mem_append, List.mem_replicate,
      List.mem_singleton] at member
    rcases member with (isDigit | ⟨-, rfl⟩) | rfl
    · exact isDigit_toDigits isDigit
    · rfl
    · rfl
  have wide : 1 <
      (Nat.toDigits 10 value ++ List.replicate exponent.toNat '0' ++
        ['0']).length := by
    have positive := Nat.length_toDigits_pos (b := 10) (n := value)
    simp only [List.length_append, List.length_singleton]
    omega
  have shows := shows_cut _ 1 digits (by omega) wide
  have sum : natural (Nat.toDigits 10 value ++
        List.replicate exponent.toNat '0' ++ ['0']) =
      value * Nat.pow 10 exponent.toNat * 10 := by
    rw [natural, Nat.ofDigitChars_append, Nat.ofDigitChars_append,
      Nat.ofDigitChars_ten_toDigits, Nat.ofDigitChars_replicate_zero,
      Nat.mul_comm value, Nat.mul_comm _ 10]
    rfl
  rw [sum, List.length_append, List.length_singleton, Nat.add_sub_cancel,
    List.take_left, List.drop_left] at shows
  rw [plain, if_pos nonneg]
  exact shows

/-- A numeral with an exponent shows its decimal. -/
theorem shows_scientific
    {exponent leading : Int}
    (value : Nat)
    (place : leading = exponent + (Nat.toDigits 10 value).length - 1)
    (small : leading.natAbs < Decimal.exponentLimit) :
    Shows (scientific (Nat.toDigits 10 value) leading) ⟨value, exponent⟩ := by
  have positive := Nat.length_toDigits_pos (b := 10) (n := value)
  have digits : ∀ character ∈ Nat.toDigits 10 value, character.isDigit = true :=
    fun character member => isDigit_toDigits member
  have whole : (Nat.toDigits 10 value).take 1 ≠ [] := by
    apply List.ne_nil_of_length_pos
    rw [List.length_take]
    omega
  have shows :=
      shows_shaped _ ((Nat.toDigits 10 value).drop 1) (some leading) whole
    (fun character member => digits character (List.mem_of_mem_take member))
    (fun character member => digits character (List.mem_of_mem_drop member))
    (Or.inr rfl) (fun value found => by cases found; exact small)
  have fraction : pointed ((Nat.toDigits 10 value).drop 1) =
      if (Nat.toDigits 10 value).length = 1 then
        []
      else
        '.' :: (Nat.toDigits 10 value).drop 1 := by
    have same : (Nat.toDigits 10 value).drop 1 = [] ↔
        (Nat.toDigits 10 value).length = 1 := by
      rw [List.drop_eq_nil_iff]
      omega
    simp only [pointed, same]
  have exact :
      leading - ((Nat.toDigits 10 value).drop 1).length = exponent := by
    rw [List.length_drop]
    omega
  rw [List.take_append_drop, fraction, natural, Nat.ofDigitChars_ten_toDigits,
    Option.getD_some, exact, ← List.append_assoc] at shows
  exact shows

/-! ## The exponents of shortest decimals -/

/-- The greatest magnitude has less than so many units. -/
theorem units_lt (single : Single) : single.units < Nat.pow 10 85 := by
  have bounded := single.bounded
  have significand : single.significand < 10 ^ 8 := by
    unfold Single.significand Single.shift
    omega
  have shift : single.shift ≤ 254 := by
    unfold Single.shift
    omega
  have power : 2 ^ single.shift ≤ 10 ^ 77 :=
    Nat.le_trans (Nat.pow_le_pow_right (by decide) shift) (by decide)
  calc
    single.units < 10 ^ 8 * 2 ^ single.shift :=
      Nat.mul_lt_mul_of_pos_right significand (Nat.two_pow_pos _)
    _ ≤ 10 ^ 8 * 10 ^ 77 := Nat.mul_le_mul_left _ power
    _ = Nat.pow 10 85 := (Nat.pow_add 10 8 77).symm

/--
A decimal whose exponent and digits are as far as those of single-precision
numbers go.
-/
structure InRange (decimal : Decimal) : Prop where
  /-- The exponent is not below that of the exact decimals. -/
  least : -149 ≤ decimal.exponent
  /-- The exponent is not above that of the coarsest grid. -/
  most : decimal.exponent ≤ 84
  /-- There are no more digits than the exact decimals may have. -/
  digits : decimal.digits < Nat.pow 10 234

theorem inRange_exactDecimal
    (single : Single) :
    InRange single.exactDecimal where
  least := by simp [exactDecimal]
  most := by simp [exactDecimal]
  digits := by
    have power : 5 ^ 149 ≤ 10 ^ 149 := Nat.pow_le_pow_left (by decide) 149
    calc
      single.units * 5 ^ 149 ≤ single.units * 10 ^ 149 :=
        Nat.mul_le_mul_left _ power
      _ < 10 ^ 85 * 10 ^ 149 :=
        Nat.mul_lt_mul_of_pos_right single.units_lt (by decide)
      _ = Nat.pow 10 234 := (Nat.pow_add 10 85 149).symm

/-- The decimal exponent of a number lies within the format. -/
theorem decimalExponent_bounds
    (single : Single) :
    -44 ≤ single.decimalExponent ∧ single.decimalExponent ≤ 85 := by
  have positive := Nat.length_toDigits_pos (b := 10)
    (n := single.units * Nat.pow 10 45 / unitsPerOne)
  have below : single.units * Nat.pow 10 45 / unitsPerOne < 10 ^ 130 := by
    calc
      single.units * 10 ^ 45 / unitsPerOne ≤ single.units * 10 ^ 45 :=
        Nat.div_le_self _ _
      _ < 10 ^ 85 * 10 ^ 45 :=
        Nat.mul_lt_mul_of_pos_right single.units_lt (by decide)
      _ = 10 ^ 130 := (Nat.pow_add 10 85 45).symm
  have length :=
    (Nat.length_toDigits_le_iff (b := 10) (by decide) (by decide)).2 below
  unfold decimalExponent
  omega

/-- The neighbours on a grid are in range. -/
theorem inRange_of_onGrid?
    {single : Single}
    {exponent : Int}
    {decimal : Decimal}
    (least : -53 ≤ exponent)
    (most : exponent ≤ 84)
    (found : single.onGrid? exponent = some decimal) : InRange decimal := by
  have digits : (single.below exponent).digits + 1 < Nat.pow 10 234 := by
    have power : 10 ^ (-exponent).toNat ≤ 10 ^ 53 :=
      Nat.pow_le_pow_right (by decide) (by omega)
    calc
      (single.below exponent).digits + 1 ≤
        single.units * 10 ^ (-exponent).toNat + 1 :=
        Nat.succ_le_succ (Nat.div_le_self _ _)
      _ ≤ 10 ^ 85 * 10 ^ 53 + 1 :=
        Nat.succ_le_succ (Nat.mul_le_mul (Nat.le_of_lt single.units_lt) power)
      _ < Nat.pow 10 234 := by decide
  unfold onGrid? at found
  split at found
  · cases found
    exact ⟨Int.le_trans (by decide) least, most, Nat.lt_of_succ_lt digits⟩
  · split at found
    · cases found
      exact ⟨Int.le_trans (by decide) least, most, digits⟩
    · cases found

/-- Stripping zeros raises the exponent by at most the number of steps. -/
theorem stripZeros_bounds
    (fuel : Nat)
    (decimal : Decimal) :
    decimal.exponent ≤ (decimal.stripZeros fuel).exponent ∧
      (decimal.stripZeros fuel).exponent ≤ decimal.exponent + fuel ∧
      (decimal.stripZeros fuel).digits ≤ decimal.digits := by
  induction fuel generalizing decimal with
  | zero => simp [Decimal.stripZeros]
  | succ fuel inductionHypothesis =>
      rw [Decimal.stripZeros]
      split
      · have fewer :=
          inductionHypothesis ⟨decimal.digits / 10, decimal.exponent + 1⟩
        have smaller := Nat.div_le_self decimal.digits 10
        simp only at fewer
        omega
      · omega

/--
The decimal that is chosen for a number, before its zeros are stripped, is in
range.
-/
theorem inRange_choice
    (single : Single) :
    InRange
      ((((List.range digitLimit).map fun (count : Nat) =>
          single.decimalExponent - (count + 1)).findSome? single.onGrid?).getD
        single.exactDecimal) := by
  cases found : List.findSome? single.onGrid? _ with
  | none => exact single.inRange_exactDecimal
  | some decimal =>
      obtain ⟨exponent, listed, onGrid⟩ :=
        List.exists_of_findSome?_eq_some found
      obtain ⟨count, counted, rfl⟩ := List.mem_map.1 listed
      have limit : count < 9 := List.mem_range.1 counted
      have bounds := single.decimalExponent_bounds
      exact inRange_of_onGrid? (by omega) (by omega) onGrid

/-- The exponent with which a shortest decimal is written can be read. -/
theorem leading_shortest
    (single : Single) :
    (single.shortest.exponent +
        (Nat.toDigits 10 single.shortest.digits).length - 1).natAbs <
      Decimal.exponentLimit := by
  have range := single.inRange_choice
  have digitCount {value : Nat} (bound : value < Nat.pow 10 234) :
      (Nat.toDigits 10 value).length ≤ 234 :=
    (Nat.length_toDigits_le_iff (by decide) (by decide)).2 bound
  rw [shortest, Decimal.normalize]
  generalize Option.getD _ _ = decimal at range ⊢
  have bounds :=
    stripZeros_bounds (Nat.toDigits 10 decimal.digits).length decimal
  have before := digitCount range.digits
  have behind := digitCount (Nat.lt_of_le_of_lt bounds.2.2 range.digits)
  have least := range.least
  have most := range.most
  have limit : Decimal.exponentLimit = 65536 := rfl
  omega

/-! ## The text of a number -/

/--
The numeral of a decimal shows a decimal that reads back as the same number.
-/
theorem shows_numeral
    {single : Single}
    {decimal : Decimal}
    (readsBack : single.ReadsBack decimal)
    (small : (decimal.exponent + (Nat.toDigits 10 decimal.digits).length -
      1).natAbs < Decimal.exponentLimit) :
    ∃ shown, Shows (numeral decimal) shown ∧ single.ReadsBack shown := by
  unfold numeral
  dsimp only
  split
  · by_cases nonneg : 0 ≤ decimal.exponent
    · refine ⟨_, shows_plain_of_nonneg decimal.digits nonneg,
        readsBack_shift.2 ?_⟩
      have zero : (-decimal.exponent).toNat = 0 := by omega
      simpa [ReadsBack, Decimal.numerator, Decimal.denominator,
        zero] using readsBack
    · exact ⟨_, shows_plain_of_neg decimal.digits (by omega), readsBack⟩
  · exact ⟨_, shows_scientific decimal.digits rfl small, readsBack⟩

/--
The decimal that the text of a finite magnitude shows reads back as that
magnitude.
-/
theorem readsBack_magnitudeText
    {single : Single}
    (finite : single.IsFinite) :
    ∃ decimal : Decimal,
      single.magnitudeText = numeral decimal ∧
      single.ReadsBack decimal ∧
      (decimal.exponent + (Nat.toDigits 10 decimal.digits).length - 1).natAbs <
        Decimal.exponentLimit := by
  by_cases zero : single.rank = 0
  · refine ⟨⟨0, 0⟩, by rw [magnitudeText, if_pos zero], ?_, by decide⟩
    rw [ReadsBack, zero]
    rfl
  · exact ⟨single.shortest, by rw [magnitudeText, if_neg zero, if_pos finite],
      single.readsBack_shortest, single.leading_shortest⟩

/-- A decimal that reads back as a finite number is rounded to it. -/
theorem ofDecimal_of_readsBack
    {single : Single}
    {decimal : Decimal}
    (finite : single.IsFinite)
    (readsBack : single.ReadsBack decimal) :
    ofDecimal single.negative decimal = single := by
  obtain ⟨negative, rank, bounded⟩ := single
  have same :
      rankOfQuotient decimal.numerator decimal.denominator = rank := readsBack
  subst same
  exact dif_pos finite

/-- A numeral that starts with a digit is read as its decimal, rounded. -/
theorem ofNumeral?_of_unsigned
    {text : String}
    {decimal : Decimal}
    (unsigned : ∀ character ∈ text.toList.head?, character.isDigit = true)
    (read : Decimal.ofNumeral? text.toList = some decimal) :
    ofNumeral? text = some (ofDecimal false decimal) := by
  rw [ofNumeral?, splitSign_of_isDigit unsigned]
  simp only [read]

/--
The text of a finite number that is not negative starts with a digit, is taken
as a whole by the scanner and is read as that number.
-/
theorem text_reads
    {single : Single}
    (finite : single.IsFinite)
    (nonneg : single.negative = false) :
    (∃ digit rest, single.text.toList = digit :: rest ∧ digit.isDigit = true) ∧
      (∀ rest, Token.stops rest = true ->
        Token.Pattern.float? (single.text.toList ++ rest) =
          some single.text.toList) ∧
      ofLiteral? single.text = some single := by
  obtain ⟨decimal, written, readsBack, small⟩ := readsBack_magnitudeText finite
  obtain ⟨shown, shows, shownReadsBack⟩ := shows_numeral readsBack small
  have letters : single.text.toList = numeral decimal := by
    rw [text, if_pos (Nat.le_of_lt finite), nonneg, if_neg Bool.false_ne_true,
      List.nil_append, String.toList_ofList, written]
  have rounded := ofDecimal_of_readsBack finite shownReadsBack
  rw [nonneg] at rounded
  rw [← letters] at shows
  refine ⟨shows.starts, shows.taken, ofLiteral?_eq_some.2 ⟨?_, finite⟩⟩
  rw [ofNumeral?_of_unsigned _ shows.read, rounded]
  intro character first
  obtain ⟨digit, rest, start, isDigit⟩ := shows.starts
  rw [start] at first
  cases first
  exact isDigit

/-- Rounding keeps the sign. -/
theorem negative_ofDecimal
    (negative : Bool)
    (decimal : Decimal) : (ofDecimal negative decimal).negative = negative := by
  dsimp only [ofDecimal]
  split <;> rfl

/-- A word names a value of the sign in front of it. -/
theorem negative_of_ofWord?
    {negative : Bool}
    {word : List Char}
    {single : Single}
    (found : ofWord? negative word = some single) :
    single.negative = negative := by
  dsimp only [ofWord?] at found
  split at found
  · cases found
    rfl
  · split at found
    · cases found
      rfl
    · cases found

/-- A numeral that starts with a digit does not stand for a negative number. -/
theorem nonneg_of_ofNumeral?
    {text : String}
    {single : Single}
    (unsigned : ∀ character ∈ text.toList.head?, character.isDigit = true)
    (found : ofNumeral? text = some single) : single.negative = false := by
  rw [ofNumeral?, splitSign_of_isDigit unsigned] at found
  dsimp only at found
  split at found
  · cases found
    exact negative_ofDecimal false _
  · exact negative_of_ofWord? found

end Single
end MatrixLang
