import Chronomata.Proofs.Decimal.Shifting

-- Rounding: an exact quotient becomes the amount nearest to it, in the form in which it can be packed.
namespace Chronomata.Decimal

open Float.Model Float.Model.UnpackedFloat

-- A finite float with a sign, worth an amount of least units; it need not be in range.
inductive Stands (sign : Sign) : UnpackedFloat → Nat → Prop where
  | zero : Stands sign (.zero sign) 0
  | finite {mantissa : Nat} {exponent : Int} (form : Canonical mantissa exponent) :
      Stands sign (.finite sign mantissa exponent form.positive)
        (mantissa * 2 ^ (exponent + 1074).toNat)

theorem shift_small {mantissa : Nat} {exponent : Int} (bounded : mantissa < 2 ^ 53)
    (least : -1074 ≤ exponent) :
    shiftToTargetExponent Format.binary64 mantissa exponent .exact =
      (⟨mantissa, false, false⟩, exponent) := by
  have digits : mantissa.log2 ≤ 52 := by
    by_cases zero : mantissa = 0
    · simp [zero]
    · have fewer := (Nat.log2_lt zero).mpr bounded
      omega
  have places : (Format.binary64.targetExponent (totalExponent mantissa exponent) - exponent).toNat
      = 0 := by
    rw [targetExponent_eq]
    omega
  rw [shiftToTargetExponent, shiftToExponent, places]
  simp only [Nat.cast_zero, Int.add_zero]
  rfl

theorem shift_full {exponent : Int} (least : -1074 ≤ exponent) :
    shiftToTargetExponent Format.binary64 (2 ^ 53) exponent .exact =
      (⟨2 ^ 52, false, false⟩, exponent + 1) := by
  have places :
      (Format.binary64.targetExponent (totalExponent (2 ^ 53) exponent) - exponent).toNat = 1 := by
    rw [targetExponent_eq, Nat.log2_two_pow]
    omega
  rw [shiftToTargetExponent, shiftToExponent, places]
  rfl

-- After the mantissa is rounded, a carry may need one more shift, which loses nothing.
theorem carry_stands (sign : Sign) {mantissa : Nat} {exponent : Int} (bounded : mantissa ≤ 2 ^ 53)
    (least : -1074 ≤ exponent) (full : 2 ^ 52 ≤ mantissa ∨ exponent = -1074) :
    let shifted := shiftToTargetExponent Format.binary64 mantissa exponent .exact
    Stands sign
      (if zero : shifted.1.mantissa = 0 then .zero sign
        else .finite sign shifted.1.mantissa shifted.2 (Nat.pos_of_ne_zero zero))
      (mantissa * 2 ^ (exponent + 1074).toNat) := by
  intro shifted
  rcases Nat.lt_or_eq_of_le bounded with small | rfl
  · simp only [shifted, shift_small small least]
    split
    · rename_i zero
      rw [show mantissa = 0 from zero, Nat.zero_mul]
      exact .zero
    · rename_i some
      exact .finite ⟨Nat.pos_of_ne_zero some, small, least, full⟩
  · simp only [shifted, shift_full least]
    have doubled : 2 ^ 53 * 2 ^ (exponent + 1074).toNat =
        2 ^ 52 * 2 ^ (exponent + 1 + 1074).toNat := by
      have next : (exponent + 1 + 1074).toNat = (exponent + 1074).toNat + 1 := by omega
      rw [next, Nat.pow_succ, Nat.pow_succ]
      ring
    rw [doubled]
    exact .finite ⟨by decide, by decide, by omega, .inl (by decide)⟩

-- Rounding a quotient gives the amount nearest to it. The exponent must not be so large that digits
-- of the quotient are missing.
theorem roundWithAccuracy_stands (sign : Sign) (numerator denominator up down : Nat)
    (exponent : Int) (positive : 0 < denominator) (units : exponent + 1074 = up - down)
    (enough : exponent ≤ max ((numerator / denominator).log2 + 1 + exponent - 53) (-1074)) :
    Stands sign
      (roundWithAccuracy Format.binary64 sign (numerator / denominator) exponent
        (accuracyOfFraction (numerator % denominator) denominator))
      (nearest (numerator * 2 ^ up) (denominator * 2 ^ down)) := by
  have lost := excess_eq positive units enough
  have digits := Nat.lt_log2_self (n := numerator / denominator)
  generalize target : max ((numerator / denominator).log2 + 1 + exponent - 53) (-1074) = limit at *
  obtain ⟨places, reached⟩ : ∃ places : Nat, exponent + places = limit :=
    ⟨(limit - exponent).toNat, by omega⟩
  have described := (describes_fraction numerator positive).shiftRight positive places
  have rounded := described.roundedMantissa (by positivity)
  have bounds := roundQuotient_bounds .even numerator (denominator * 2 ^ places)
  have kept : numerator / (denominator * 2 ^ places) < 2 ^ 53 := by
    rw [← Nat.div_div_eq_div_mul, Nat.div_lt_iff_lt_mul (by positivity), ← Nat.pow_add]
    exact Nat.lt_of_lt_of_le digits (Nat.pow_le_pow_right (by decide) (by omega))
  have amount : nearest (numerator * 2 ^ up) (denominator * 2 ^ down) =
      roundQuotient .even numerator (denominator * 2 ^ places) * 2 ^ (limit + 1074).toNat := by
    have same : excess (numerator * 2 ^ up / (denominator * 2 ^ down)) = (limit + 1074).toNat := by
      omega
    have exponents : down + (limit + 1074).toNat = places + up := by omega
    have powers : denominator * 2 ^ down * 2 ^ (limit + 1074).toNat =
        denominator * 2 ^ places * 2 ^ up := by
      rw [Nat.mul_assoc, ← Nat.pow_add, exponents, Nat.pow_add, ← Nat.mul_assoc]
    unfold nearest
    simp only [same]
    rw [powers, roundQuotient_scaled _ _ _ (Nat.two_pow_pos up)]
  have first : shiftToTargetExponent Format.binary64 (numerator / denominator) exponent
      (accuracyOfFraction (numerator % denominator) denominator) =
      (ExtendedMantissa.ofMantissaAndAccuracy (numerator / denominator)
        (accuracyOfFraction (numerator % denominator) denominator) >>> places, limit) := by
    have shift : (limit - exponent).toNat = places := by omega
    rw [shiftToTargetExponent, targetExponent_eq, target, shiftToExponent, shift, reached]
  rw [amount, ← rounded]
  unfold roundWithAccuracy
  rw [first]
  refine carry_stands sign (by omega) (by omega) ?_
  rw [rounded]
  by_cases lowest : limit = -1074
  · exact .inr lowest
  · left
    have many : (numerator / denominator).log2 = 52 + places := by omega
    have nonzero : numerator / denominator ≠ 0 := by
      intro zero
      rw [zero, Nat.log2_zero] at many
      omega
    refine Nat.le_trans ?_ bounds.1
    rw [← Nat.div_div_eq_div_mul, Nat.le_div_iff_mul_le (by positivity), ← Nat.pow_add, ← many]
    exact Nat.log2_self_le nonzero

end Chronomata.Decimal
