import MatrixLang.Numeral.Shortest

/-!
# Shortest decimals read back

Rounding depends only on the value of a quotient, and the value of a number
rounds to the number itself.  Hence `Single.readsBack_shortest`: whatever
decimal is chosen for a number reads back as that number.
-/

namespace MatrixLang
namespace Single

theorem unitsPerOne_pos : 0 < unitsPerOne :=
  Nat.two_pow_pos 149

/-- Rounding a quotient depends only on its value. -/
theorem roundQuotient_mul_right
    {factor : Nat}
    (positive : 0 < factor)
    (numerator denominator : Nat) :
    roundQuotient (numerator * factor) (denominator * factor) =
      roundQuotient numerator denominator := by
  have remainder : 2 * (numerator * factor % (denominator * factor)) =
      2 * (numerator % denominator) * factor := by
    rw [Nat.mul_mod_mul_right, Nat.mul_assoc]
  simp only [roundQuotient, Nat.mul_div_mul_right _ _ positive, remainder,
    Nat.mul_lt_mul_right positive]

/-- The nearest magnitude depends only on the value of a quotient. -/
theorem rankOfQuotient_mul_right
    {factor : Nat}
    (positive : 0 < factor)
    (numerator denominator : Nat) :
    rankOfQuotient (numerator * factor) (denominator * factor) =
      rankOfQuotient numerator denominator := by
  have scaled (shift : Nat) :
      roundQuotient (numerator * factor * unitsPerOne)
          (denominator * factor * Nat.pow 2 shift) =
        roundQuotient (numerator * unitsPerOne)
          (denominator * Nat.pow 2 shift) := by
    rw [Nat.mul_right_comm numerator, Nat.mul_right_comm denominator]
    exact roundQuotient_mul_right positive _ _
  have units : numerator * factor * unitsPerOne / (denominator * factor) =
      numerator * unitsPerOne / denominator := by
    rw [Nat.mul_right_comm, Nat.mul_div_mul_right _ _ positive]
  simp only [rankOfQuotient, units, scaled]

/-- A multiple of the denominator is not rounded. -/
theorem roundQuotient_mul_self
    {denominator : Nat}
    (positive : 0 < denominator)
    (quotient : Nat) :
    roundQuotient (quotient * denominator) denominator = quotient := by
  simp [roundQuotient, Nat.mul_div_cancel _ positive, positive]

/--
The significant bits of a number have their full length or no bits below them.
-/
theorem shiftFor_units
    (single : Single) :
    shiftFor single.units = single.shift := by
  by_cases small : single.rank < 0x1000000
  · have zero : single.shift = 0 := by
      have bound : single.rank / 0x800000 < 2 := Nat.div_lt_of_lt_mul small
      unfold shift
      omega
    have whole : single.units = single.rank := by
      rw [units, significand, zero, Nat.zero_mul, Nat.sub_zero, Nat.pow_eq,
        Nat.pow_zero, Nat.mul_one]
    rw [shiftFor, whole, if_pos small, zero]
  · have blocks : 2 ≤ single.rank / 0x800000 :=
      (Nat.le_div_iff_mul_le (by decide)).2 (Nat.le_of_not_lt small)
    have divided := Nat.div_add_mod single.rank 0x800000
    have remainder := Nat.mod_lt single.rank (show 0 < 0x800000 by decide)
    have lower : 0x800000 ≤ single.significand := by
      unfold significand shift
      rw [Nat.sub_mul]
      omega
    have upper : single.significand < 0x1000000 := by
      unfold significand shift
      rw [Nat.sub_mul]
      omega
    have shifted : 1 ≤ single.shift := by
      unfold shift
      omega
    have large : ¬ single.units < 0x1000000 := by
      have grown : 0x800000 * 2 ^ 1 ≤ single.units :=
        Nat.mul_le_mul lower (Nat.pow_le_pow_right (by decide) shifted)
      omega
    have length : single.units.log2 = 23 + single.shift := by
      have nonzero : single.units ≠ 0 := by omega
      refine (Nat.log2_eq_iff nonzero).2 ⟨?_, ?_⟩
      · rw [Nat.pow_add]
        exact Nat.mul_le_mul_right _ lower
      · rw [show 23 + single.shift + 1 = 24 + single.shift by omega,
          Nat.pow_add]
        exact Nat.mul_lt_mul_of_pos_right upper (Nat.two_pow_pos _)
    rw [shiftFor, if_neg large, length]
    omega

/-- The value of a number rounds to the number itself. -/
theorem rankOfQuotient_units
    (single : Single) :
    rankOfQuotient single.units unitsPerOne = single.rank := by
  have whole : single.units * unitsPerOne / unitsPerOne = single.units :=
    Nat.mul_div_cancel _ unitsPerOne_pos
  have factored : single.units * unitsPerOne =
      single.significand * (unitsPerOne * 2 ^ single.shift) := by
    rw [units, Nat.mul_assoc, Nat.pow_eq, Nat.mul_comm (2 ^ single.shift)]
  have below : single.shift * 0x800000 ≤ single.rank := by
    have divided := Nat.div_mul_le_self single.rank 0x800000
    unfold shift
    rw [Nat.sub_mul]
    omega
  simp only [rankOfQuotient, whole, shiftFor_units, Nat.pow_eq]
  rw [factored,
    roundQuotient_mul_self (Nat.mul_pos unitsPerOne_pos (Nat.two_pow_pos _))]
  unfold significand
  omega

/-- The exact decimal value of a number reads back. -/
theorem readsBack_exactDecimal
    (single : Single) :
    single.ReadsBack single.exactDecimal := by
  have power : (10 : Nat) ^ 149 = unitsPerOne * 5 ^ 149 := Nat.mul_pow 2 5 149
  have value :
      rankOfQuotient (single.units * 5 ^ 149) (10 ^ 149) = single.rank := by
    rw [power, rankOfQuotient_mul_right (Nat.pow_pos (by decide)),
      rankOfQuotient_units]
  simpa [ReadsBack, exactDecimal, Decimal.numerator,
    Decimal.denominator] using value

/-- A decimal that is found on a grid reads back. -/
theorem readsBack_of_onGrid?
    {single : Single}
    {exponent : Int}
    {decimal : Decimal}
    (found : single.onGrid? exponent = some decimal) :
    single.ReadsBack decimal := by
  unfold onGrid? at found
  split at found
  · next lower =>
      cases found
      exact lower.1
  · split at found
    · next upper =>
        cases found
        exact upper
    · cases found

/--
A trailing zero among the digits does not change what a decimal reads back as.
-/
theorem readsBack_shift
    {single : Single}
    {digits : Nat}
    {exponent : Int} :
    single.ReadsBack ⟨digits * 10, exponent⟩ ↔
      single.ReadsBack ⟨digits, exponent + 1⟩ := by
  unfold ReadsBack
  by_cases whole : 0 ≤ exponent
  · have up : (exponent + 1).toNat = exponent.toNat + 1 := by omega
    have zero : (-exponent).toNat = 0 := by omega
    have zero' : (-(exponent + 1)).toNat = 0 := by omega
    simp only [Decimal.numerator, Decimal.denominator, up, zero, zero',
      Nat.pow_eq, Nat.pow_succ]
    rw [Nat.mul_assoc, Nat.mul_comm 10]
  · have down : (-exponent).toNat = (-(exponent + 1)).toNat + 1 := by omega
    have zero : exponent.toNat = 0 := by omega
    have zero' : (exponent + 1).toNat = 0 := by omega
    simp only [Decimal.numerator, Decimal.denominator, down, zero, zero',
      Nat.pow_eq, Nat.pow_zero, Nat.mul_one, Nat.pow_succ]
    rw [rankOfQuotient_mul_right (by decide)]

/-- Stripping trailing zeros keeps what a decimal reads back as. -/
theorem readsBack_stripZeros
    {single : Single}
    {fuel : Nat}
    {decimal : Decimal} :
    single.ReadsBack (decimal.stripZeros fuel) ↔ single.ReadsBack decimal := by
  induction fuel generalizing decimal with
  | zero => rfl
  | succ fuel inductionHypothesis =>
      rw [Decimal.stripZeros]
      split
      · next trailing =>
          have digits : decimal.digits / 10 * 10 = decimal.digits :=
            Nat.div_mul_cancel (Nat.dvd_of_mod_eq_zero trailing.2)
          rw [inductionHypothesis, ← readsBack_shift, digits]
      · rfl

/-- The decimal chosen for a number reads back as that number. -/
theorem readsBack_shortest
    (single : Single) :
    single.ReadsBack single.shortest := by
  rw [shortest, Decimal.normalize, readsBack_stripZeros]
  cases found : List.findSome? single.onGrid? _ with
  | none => exact single.readsBack_exactDecimal
  | some decimal =>
      obtain ⟨exponent, _, onGrid⟩ := List.exists_of_findSome?_eq_some found
      exact readsBack_of_onGrid? onGrid

end Single
end MatrixLang
