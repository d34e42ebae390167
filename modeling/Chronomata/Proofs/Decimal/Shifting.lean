import Chronomata.Proofs.Decimal.Packing

-- Shifting: a mantissa that is shifted right keeps, in two more bits, all that rounding has to know of
-- the exact quotient that it stands for.
namespace Chronomata.Decimal

open Float.Model Float.Model.UnpackedFloat

-- The whole part of a quotient; whether its rest is at least one half; whether what is then left of
-- it is more than nothing.
structure Describes (em : ExtendedMantissa) (numerator denominator : Nat) : Prop where
  whole : em.mantissa = numerator / denominator
  half : em.roundBit = decide (denominator ≤ 2 * (numerator % denominator))
  more : em.stickyBit = decide (2 * numerator % denominator ≠ 0)

theorem double_mod (numerator : Nat) {denominator : Nat} (positive : 0 < denominator) :
    2 * numerator % denominator =
      if denominator ≤ 2 * (numerator % denominator)
      then 2 * (numerator % denominator) - denominator else 2 * (numerator % denominator) := by
  have bound := Nat.mod_lt numerator positive
  rw [← Nat.mul_mod_mod]
  split
  · rw [Nat.mod_eq_sub_mod ‹_›, Nat.mod_eq_of_lt (by omega)]
  · exact Nat.mod_eq_of_lt (by omega)

theorem describes_fraction (numerator : Nat) {denominator : Nat} (positive : 0 < denominator) :
    Describes (.ofMantissaAndAccuracy (numerator / denominator)
      (accuracyOfFraction (numerator % denominator) denominator)) numerator denominator := by
  have rest := double_mod numerator positive
  have bound := Nat.mod_lt numerator positive
  unfold accuracyOfFraction
  split
  · rename_i exact
    refine ⟨rfl, ?_, ?_⟩ <;>
      simp only [ExtendedMantissa.ofMantissaAndAccuracy, false_eq_decide_iff] <;> grind
  · rename_i inexact
    cases order : compare (2 * (numerator % denominator)) denominator with
    | lt =>
      have less := Nat.compare_eq_lt.mp order
      refine ⟨rfl, ?_, ?_⟩ <;> simp [ExtendedMantissa.ofMantissaAndAccuracy] <;> grind
    | eq =>
      have same := Nat.compare_eq_eq.mp order
      refine ⟨rfl, ?_, ?_⟩ <;> simp [ExtendedMantissa.ofMantissaAndAccuracy] <;> grind
    | gt =>
      have greater := Nat.compare_eq_gt.mp order
      refine ⟨rfl, ?_, ?_⟩ <;> simp [ExtendedMantissa.ofMantissaAndAccuracy] <;> grind

theorem Describes.shiftRightOne {em : ExtendedMantissa} {numerator denominator : Nat}
    (positive : 0 < denominator) (described : Describes em numerator denominator) :
    Describes em.shiftRightOne numerator (denominator * 2) := by
  obtain ⟨whole, half, more⟩ := described
  have rest := double_mod numerator positive
  have bound := Nat.mod_lt numerator positive
  have split : numerator % (denominator * 2) =
      numerator % denominator + denominator * (numerator / denominator % 2) := Nat.mod_mul
  refine ⟨?_, ?_, ?_⟩
  · simp only [ExtendedMantissa.shiftRightOne, whole, Nat.div_div_eq_div_mul]
  · have bit : numerator / denominator % 2 = 0 ∨ numerator / denominator % 2 = 1 := by omega
    simp only [ExtendedMantissa.shiftRightOne, whole]
    rcases bit with bit | bit
    · rw [bit, Nat.mul_zero] at split
      simp only [bit, split, bne_self_eq_false, false_eq_decide_iff]
      omega
    · rw [bit, Nat.mul_one] at split
      simp only [bit, split]
      simp
      omega
  · have lost : 2 * numerator % (denominator * 2) = 2 * (numerator % denominator) := by
      rw [Nat.mul_comm denominator, Nat.mul_mod_mul_left]
    simp only [ExtendedMantissa.shiftRightOne, half, more, lost]
    grind

theorem Describes.shiftRight {em : ExtendedMantissa} {numerator denominator : Nat}
    (positive : 0 < denominator) (described : Describes em numerator denominator) (places : Nat) :
    Describes (em >>> places) numerator (denominator * 2 ^ places) := by
  show Describes (places.repeat ExtendedMantissa.shiftRightOne em) _ _
  induction places with
  | zero => simpa [Nat.repeat] using described
  | succ places ih =>
    rw [Nat.pow_succ, ← Nat.mul_assoc]
    exact ih.shiftRightOne (by positivity)

theorem Describes.roundedMantissa {em : ExtendedMantissa} {numerator denominator : Nat}
    (positive : 0 < denominator) (described : Describes em numerator denominator) :
    em.roundedMantissa = roundQuotient .even numerator denominator := by
  obtain ⟨mantissa, round, sticky⟩ := em
  obtain ⟨whole, half, more⟩ := described
  have rest := double_mod numerator positive
  have bound := Nat.mod_lt numerator positive
  dsimp only at whole half more
  unfold roundQuotient ExtendedMantissa.roundedMantissa
  cases round <;> cases sticky <;>
    simp only [ExtendedMantissa.accuracy, Accuracy.roundToNearestEven, false_eq_decide_iff,
      true_eq_decide_iff] at half more ⊢ <;> grind

theorem log2_scaled_quotient {numerator denominator : Nat} (some : numerator / denominator ≠ 0)
    (places : Nat) :
    (numerator * 2 ^ places / denominator).log2 = (numerator / denominator).log2 + places := by
  have positive : 0 < denominator := by
    apply Nat.pos_of_ne_zero
    rintro rfl
    exact some (Nat.div_zero _)
  have lower := (Nat.le_div_iff_mul_le positive).mp (Nat.log2_self_le some)
  have upper := (Nat.div_lt_iff_lt_mul positive).mp (Nat.lt_log2_self (n := numerator / denominator))
  generalize (numerator / denominator).log2 = digits at *
  have least : 2 ^ (digits + places) ≤ numerator * 2 ^ places / denominator := by
    rw [Nat.le_div_iff_mul_le positive, Nat.pow_add, Nat.mul_right_comm]
    exact Nat.mul_le_mul_right _ lower
  have less : numerator * 2 ^ places / denominator < 2 ^ (digits + places + 1) := by
    rw [Nat.div_lt_iff_lt_mul positive, Nat.add_right_comm, Nat.pow_add, Nat.mul_right_comm]
    exact Nat.mul_lt_mul_of_pos_right upper (Nat.two_pow_pos places)
  exact (Nat.log2_eq_iff (Nat.ne_of_gt (Nat.lt_of_lt_of_le (by positivity) least))).mpr ⟨least, less⟩

theorem log2_div_two_pow (amount places : Nat) :
    (amount / 2 ^ places).log2 = amount.log2 - places := by
  by_cases none : amount / 2 ^ places = 0
  · have small : amount < 2 ^ places := (Nat.div_eq_zero_iff_lt (by positivity)).mp none
    rw [none, Nat.log2_zero]
    by_cases zero : amount = 0
    · simp [zero]
    · have digits := (Nat.log2_lt zero).mpr small
      omega
  · have large : 2 ^ places ≤ amount := by
      by_contra less
      exact none (Nat.div_eq_of_lt (by omega))
    have nonzero : amount ≠ 0 := Nat.ne_of_gt (Nat.lt_of_lt_of_le (by positivity) large)
    have digits := (Nat.le_log2 nonzero).mpr large
    rw [(Nat.log2_eq_iff (k := amount.log2 - places) none).mpr]
    constructor
    · rw [Nat.le_div_iff_mul_le (by positivity), ← two_pow_split digits]
      exact Nat.log2_self_le nonzero
    · rw [Nat.div_lt_iff_lt_mul (by positivity), ← Nat.pow_add]
      have reached : amount.log2 - places + 1 + places = amount.log2 + 1 := by omega
      rw [reached]
      exact Nat.lt_log2_self

theorem targetExponent_eq (mantissa : Nat) (exponent : Int) :
    Format.binary64.targetExponent (totalExponent mantissa exponent) =
      max (mantissa.log2 + 1 + exponent - 53) (-1074) := rfl

-- The exponent that a rounded quotient gets is the number of digits that its amount loses.
theorem excess_eq {numerator denominator up down : Nat} {exponent : Int}
    (positive : 0 < denominator) (units : exponent + 1074 = up - down)
    (enough : exponent ≤ max ((numerator / denominator).log2 + 1 + exponent - 53) (-1074)) :
    (excess (numerator * 2 ^ up / (denominator * 2 ^ down)) : Int) =
      max ((numerator / denominator).log2 + 1 + exponent - 53) (-1074) + 1074 := by
  unfold excess
  rw [← Nat.div_div_eq_div_mul, log2_div_two_pow]
  by_cases none : numerator / denominator = 0
  · rw [none, Nat.log2_zero] at enough ⊢
    have fewer : (numerator * 2 ^ up / denominator).log2 ≤ up := by
      have small := (Nat.div_eq_zero_iff_lt positive).mp none
      have below : numerator * 2 ^ up / denominator < 2 ^ up := by
        rw [Nat.div_lt_iff_lt_mul positive, Nat.mul_comm]
        exact Nat.mul_lt_mul_of_pos_left small (Nat.two_pow_pos up)
      by_cases zero : numerator * 2 ^ up / denominator = 0
      · simp [zero]
      · exact Nat.le_of_lt ((Nat.log2_lt zero).mpr below)
    omega
  · rw [log2_scaled_quotient none]
    omega

end Chronomata.Decimal
