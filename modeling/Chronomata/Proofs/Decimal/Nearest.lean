import Chronomata.Decimal.Basic
import Mathlib.Algebra.Order.Ring.Nat
import Mathlib.Tactic.Linarith
import Mathlib.Tactic.Positivity
import Mathlib.Tactic.Ring

-- Rounding to 53 binary digits, in exact integer arithmetic. Amounts are counted in units of the least
-- positive float, so that an exact result is a quotient of two naturals and a rounded one a natural.
namespace Chronomata.Decimal

-- How many low digits of an amount do not fit.
def excess (amount : Nat) : Nat := amount.log2 - 52

-- The amount nearest to a quotient among those of 53 digits, a tie going to the even one.
def nearest (numerator denominator : Nat) : Nat :=
  let lost := 2 ^ excess (numerator / denominator)
  roundQuotient .even numerator (denominator * lost) * lost

theorem roundQuotient_bounds (tie : Tie) (numerator denominator : Nat) :
    numerator / denominator ≤ roundQuotient tie numerator denominator ∧
      roundQuotient tie numerator denominator ≤ numerator / denominator + 1 := by
  unfold roundQuotient
  dsimp only
  cases tie <;> split_ifs <;> grind

theorem roundQuotient_low (tie : Tie) {numerator denominator : Nat}
    (small : 2 * (numerator % denominator) < denominator) :
    roundQuotient tie numerator denominator = numerator / denominator := by
  simp [roundQuotient, small]

theorem roundQuotient_scaled (tie : Tie) (numerator denominator : Nat) {scale : Nat}
    (positive : 0 < scale) :
    roundQuotient tie (numerator * scale) (denominator * scale) =
      roundQuotient tie numerator denominator := by
  have remainder : numerator * scale % (denominator * scale) =
      numerator % denominator * scale := Nat.mul_mod_mul_right _ _ _
  have twice : 2 * (numerator % denominator * scale) = 2 * (numerator % denominator) * scale := by
    ring
  unfold roundQuotient
  simp only [Nat.mul_div_mul_right _ _ positive, remainder, twice,
    Nat.mul_lt_mul_right positive]

theorem nearest_scaled (numerator denominator : Nat) {scale : Nat} (positive : 0 < scale) :
    nearest (numerator * scale) (denominator * scale) = nearest numerator denominator := by
  unfold nearest
  simp only [Nat.mul_div_mul_right _ _ positive]
  rw [Nat.mul_right_comm denominator scale, roundQuotient_scaled _ _ _ positive]

theorem nearest_zero (denominator : Nat) : nearest 0 denominator = 0 := by
  simp [nearest, roundQuotient]

-- What is at least one unit does not vanish.
theorem nearest_pos {numerator denominator : Nat} (enough : denominator ≤ numerator)
    (positive : 0 < denominator) : 0 < nearest numerator denominator := by
  have some : numerator / denominator ≠ 0 := Nat.ne_of_gt (Nat.div_pos enough positive)
  have kept : 1 ≤ numerator / denominator / 2 ^ excess (numerator / denominator) := by
    apply (Nat.le_div_iff_mul_le (by positivity)).mpr
    have lower := Nat.log2_self_le some
    have shift : 2 ^ excess (numerator / denominator) ≤ 2 ^ (numerator / denominator).log2 :=
      Nat.pow_le_pow_right (by decide) (Nat.sub_le _ _)
    omega
  have rounded := (roundQuotient_bounds .even numerator
    (denominator * 2 ^ excess (numerator / denominator))).1
  rw [← Nat.div_div_eq_div_mul] at rounded
  exact Nat.mul_pos (Nat.lt_of_lt_of_le kept rounded) (by positivity)

-- What is not more than half a unit vanishes; a half goes to nothing, which is even.
theorem nearest_pos_iff {numerator denominator : Nat} (positive : 0 < denominator) :
    0 < nearest numerator denominator ↔ denominator < 2 * numerator := by
  by_cases enough : denominator ≤ numerator
  · exact iff_of_true (nearest_pos enough positive) (by omega)
  · have whole : numerator / denominator = 0 := Nat.div_eq_of_lt (by omega)
    have rest : numerator % denominator = numerator := Nat.mod_eq_of_lt (by omega)
    have alone : nearest numerator denominator = roundQuotient .even numerator denominator := by
      simp [nearest, whole, excess]
    rw [alone, roundQuotient, whole, rest]
    split_ifs <;> omega

theorem mul_two_pow_lt {mantissa digits places total : Nat} (bounded : mantissa < 2 ^ digits)
    (sum : digits + places = total) : mantissa * 2 ^ places < 2 ^ total := by
  rw [← sum, Nat.pow_add]
  exact Nat.mul_lt_mul_of_pos_right bounded (Nat.two_pow_pos _)

theorem two_pow_split {low high : Nat} (ordered : low ≤ high) :
    2 ^ high = 2 ^ (high - low) * 2 ^ low := by
  rw [← Nat.pow_add, Nat.sub_add_cancel ordered]

-- What has no more than 53 digits before its last zeros needs no rounding.
theorem nearest_exact {mantissa : Nat} (bounded : mantissa < 2 ^ 53) (places : Nat) :
    nearest (mantissa * 2 ^ places) 1 = mantissa * 2 ^ places := by
  by_cases zero : mantissa = 0
  · rw [zero, Nat.zero_mul, nearest_zero]
  · have some : mantissa * 2 ^ places ≠ 0 :=
      Nat.mul_ne_zero zero (Nat.ne_of_gt (Nat.two_pow_pos _))
    have fits : excess (mantissa * 2 ^ places) ≤ places := by
      have digits : (mantissa * 2 ^ places).log2 < 53 + places := by
        rw [Nat.log2_lt some, Nat.pow_add]
        exact Nat.mul_lt_mul_of_pos_right bounded (Nat.two_pow_pos _)
      unfold excess
      omega
    have whole := two_pow_split fits
    unfold nearest
    simp only [Nat.div_one]
    generalize excess (mantissa * 2 ^ places) = lost at *
    rw [whole, ← Nat.mul_assoc, roundQuotient_scaled _ _ _ (Nat.two_pow_pos _)]
    simp [roundQuotient, Nat.mod_one]

theorem nearest_two_pow (mantissa : Nat) {first second third unit : Nat}
    (sum : first + second = third + unit) :
    nearest (mantissa * 2 ^ first * 2 ^ second) (2 ^ unit) = nearest (mantissa * 2 ^ third) 1 := by
  rw [← nearest_scaled (mantissa * 2 ^ third) 1 (Nat.two_pow_pos unit), Nat.one_mul,
    Nat.mul_assoc, ← Nat.pow_add, sum, Nat.pow_add, ← Nat.mul_assoc]

theorem nearest_le_of_lt {amount exponent : Nat} (large : 53 ≤ exponent)
    (below : amount < 2 ^ exponent) : nearest amount 1 ≤ 2 ^ exponent := by
  have fits : excess amount ≤ exponent := by
    by_cases zero : amount = 0
    · simp [zero, excess]
    · have digits := (Nat.log2_lt zero).mpr below
      unfold excess
      omega
  have whole := two_pow_split fits
  have quotient : amount / 2 ^ excess amount < 2 ^ (exponent - excess amount) := by
    apply (Nat.div_lt_iff_lt_mul (by positivity)).mpr
    rwa [← whole]
  have rounded := (roundQuotient_bounds .even amount (2 ^ excess amount)).2
  unfold nearest
  simp only [Nat.div_one, Nat.one_mul]
  rw [whole]
  exact Nat.mul_le_mul_right _ (by omega)

-- A sum that stays below the middle between a power of two and its successor rounds to that power at
-- most. This is what stops a running sum of small amounts from growing any further.
theorem nearest_le_two_pow {amount exponent : Nat} (large : 53 ≤ exponent)
    (below : amount < 2 ^ exponent + 2 ^ (exponent - 53)) : nearest amount 1 ≤ 2 ^ exponent := by
  by_cases smaller : amount < 2 ^ exponent
  · exact nearest_le_of_lt large smaller
  · obtain ⟨rest, rfl⟩ : ∃ rest, amount = 2 ^ exponent + rest := ⟨amount - 2 ^ exponent, by omega⟩
    have half := two_pow_split large
    have digits : (2 ^ exponent + rest).log2 = exponent := by
      refine (Nat.log2_eq_iff (by omega)).mpr ⟨by omega, ?_⟩
      have room : 2 ^ (exponent - 53) ≤ 2 ^ exponent :=
        Nat.pow_le_pow_right (by decide) (by omega)
      rw [Nat.pow_succ]
      omega
    have unit : 2 ^ excess (2 ^ exponent + rest) = 2 * 2 ^ (exponent - 53) := by
      rw [excess, digits, Nat.mul_comm, ← Nat.pow_succ]
      congr 1
      omega
    have multiple : 2 ^ exponent = 2 * 2 ^ (exponent - 53) * 2 ^ 52 := by
      rw [two_pow_split (show 52 ≤ exponent by omega), Nat.mul_comm 2, ← Nat.pow_succ]
      congr 2
      omega
    unfold nearest
    simp only [Nat.div_one, Nat.one_mul, unit]
    generalize 2 ^ (exponent - 53) = lost at *
    rw [multiple, roundQuotient_low, Nat.mul_add_div (by omega), Nat.div_eq_of_lt (by omega)]
    · exact Nat.le_of_eq (by ring)
    · rw [Nat.mul_add_mod, Nat.mod_eq_of_lt (by omega)]
      omega

end Chronomata.Decimal
