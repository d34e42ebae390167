import Chronomata.Proofs.Decimal.Nearest
import Mathlib.Algebra.Order.Field.Rat
import Mathlib.Data.Nat.Cast.Order.Field
import Mathlib.Tactic.FieldSimp

-- How far rounding to 53 binary digits goes. It never reverses an order; what is rounded is off by one part
-- in 2^53 at most, or by half a unit where there are no more digits.
namespace Chronomata.Decimal

theorem roundQuotient_mono {a b denominator : Nat} (ordered : a ≤ b) :
    roundQuotient .even a denominator ≤ roundQuotient .even b denominator := by
  have below := (roundQuotient_bounds .even a denominator).2
  have above := (roundQuotient_bounds .even b denominator).1
  rcases Nat.lt_or_eq_of_le (Nat.div_le_div_right (c := denominator) ordered) with less | same
  · omega
  · -- With one whole part, it is the rest that decides.
    have rest : a % denominator ≤ b % denominator := by
      have split := Nat.div_add_mod a denominator
      have split' := Nat.div_add_mod b denominator
      rw [same] at split
      omega
    unfold roundQuotient
    dsimp only
    rw [same]
    split_ifs <;> omega

theorem nearest_le_of_div_lt {numerator denominator exponent : Nat}
    (below : numerator / denominator < 2 ^ exponent) : nearest numerator denominator ≤ 2 ^ exponent := by
  have fits : excess (numerator / denominator) ≤ exponent := by
    unfold excess
    by_cases zero : numerator / denominator = 0
    · simp [zero]
    · have digits := (Nat.log2_lt zero).mpr below
      omega
  have whole := two_pow_split fits
  have kept : numerator / (denominator * 2 ^ excess (numerator / denominator)) <
      2 ^ (exponent - excess (numerator / denominator)) := by
    rw [← Nat.div_div_eq_div_mul, Nat.div_lt_iff_lt_mul (Nat.two_pow_pos _), ← whole]
    exact below
  have rounded := (roundQuotient_bounds .even numerator
    (denominator * 2 ^ excess (numerator / denominator))).2
  unfold nearest
  dsimp only
  rw [whole]
  exact Nat.mul_le_mul_right _ (by omega)

-- Rounding keeps the first binary digit, or carries into the next one.
theorem two_pow_log2_le_nearest {numerator denominator : Nat} (some : numerator / denominator ≠ 0) :
    2 ^ (numerator / denominator).log2 ≤ nearest numerator denominator := by
  have whole := two_pow_split (show excess (numerator / denominator) ≤
    (numerator / denominator).log2 from Nat.sub_le _ _)
  have rounded := (roundQuotient_bounds .even numerator
    (denominator * 2 ^ excess (numerator / denominator))).1
  rw [← Nat.div_div_eq_div_mul] at rounded
  unfold nearest
  dsimp only
  rw [whole]
  refine Nat.mul_le_mul_right _ (Nat.le_trans ?_ rounded)
  rw [Nat.le_div_iff_mul_le (Nat.two_pow_pos _), ← whole]
  exact Nat.log2_self_le some

theorem log2_mono {a b : Nat} (ordered : a ≤ b) : a.log2 ≤ b.log2 := by
  by_cases zero : a = 0
  · simp [zero]
  · exact (Nat.le_log2 (by omega)).mpr (Nat.le_trans (Nat.log2_self_le zero) ordered)

theorem nearest_mono {a b : Nat} (ordered : a ≤ b) (denominator : Nat) :
    nearest a denominator ≤ nearest b denominator := by
  have quotients : a / denominator ≤ b / denominator := Nat.div_le_div_right ordered
  have digits := log2_mono quotients
  by_cases same : excess (a / denominator) = excess (b / denominator)
  · unfold nearest
    dsimp only
    rw [same]
    exact Nat.mul_le_mul_right _ (roundQuotient_mono ordered)
  · -- The power of two at the first digit of the larger quotient lies between both results.
    unfold excess at same
    have some : b / denominator ≠ 0 := by
      intro zero
      rw [zero] at same digits
      simp at same digits
      omega
    have below : a / denominator < 2 ^ (b / denominator).log2 := by
      refine Nat.lt_of_lt_of_le Nat.lt_log2_self (Nat.pow_le_pow_right (by decide) ?_)
      omega
    exact Nat.le_trans (nearest_le_of_div_lt below) (two_pow_log2_le_nearest some)

theorem nearest_near (numerator : Nat) {denominator : Nat} (positive : 0 < denominator) :
    |(nearest numerator denominator : ℚ) - numerator / denominator| ≤
      2 ^ excess (numerator / denominator) / 2 := by
  obtain ⟨high, low⟩ := roundQuotient_near .even numerator
    (Nat.mul_pos positive (Nat.two_pow_pos (excess (numerator / denominator))))
  have positive' : (0 : ℚ) < denominator := by exact_mod_cast positive
  unfold nearest
  generalize excess (numerator / denominator) = places at *
  dsimp only
  generalize roundQuotient .even numerator (denominator * 2 ^ places) = rounded at *
  have high' : 2 * (numerator : ℚ) ≤ (2 * rounded + 1) * (denominator * 2 ^ places) := by
    exact_mod_cast high
  have low' : 2 * (rounded : ℚ) * (denominator * 2 ^ places) ≤
      2 * numerator + denominator * 2 ^ places := by
    exact_mod_cast low
  push_cast
  have above : (numerator : ℚ) / denominator ≤ rounded * 2 ^ places + 2 ^ places / 2 := by
    rw [div_le_iff₀ positive']
    linarith
  have below : (rounded : ℚ) * 2 ^ places - 2 ^ places / 2 ≤ numerator / denominator := by
    rw [le_div_iff₀ positive']
    linarith
  rw [abs_le]
  constructor <;> linarith

-- The last digit that is kept is one unit, or one part in 2^52 at most of what was given and of what
-- comes out.
theorem last_digit (numerator denominator : Nat) :
    excess (numerator / denominator) = 0 ∨
      (2 : ℚ) ^ excess (numerator / denominator) * 2 ^ 52 ≤ numerator / denominator ∧
        (2 : ℚ) ^ excess (numerator / denominator) * 2 ^ 52 ≤ nearest numerator denominator := by
  by_cases none : excess (numerator / denominator) = 0
  · exact .inl none
  · have digits : excess (numerator / denominator) + 52 = (numerator / denominator).log2 := by
      unfold excess at none ⊢
      omega
    have some : numerator / denominator ≠ 0 := by
      intro zero
      rw [zero, Nat.log2_zero] at digits
      omega
    have lower := Nat.log2_self_le some
    have rounded := two_pow_log2_le_nearest some
    rw [← digits, Nat.pow_add] at lower rounded
    have quotient : ((numerator / denominator : Nat) : ℚ) ≤ numerator / denominator := Nat.cast_div_le
    refine .inr ⟨le_trans ?_ quotient, ?_⟩
    · exact_mod_cast lower
    · exact_mod_cast rounded

theorem sum_error (amount : Nat) :
    |(nearest amount 1 : ℚ) - amount| ≤ nearest amount 1 / 2 ^ 53 := by
  have near := nearest_near amount Nat.one_pos
  rw [Nat.cast_one, div_one, Nat.div_one] at near
  rcases last_digit amount 1 with whole | ⟨_, kept⟩
  · rw [Nat.div_one] at whole
    have same : nearest amount 1 = amount := by
      simp [nearest, whole, roundQuotient, Nat.mod_one]
    rw [same, sub_self, abs_zero]
    positivity
  · rw [Nat.div_one] at kept
    linarith

theorem quotient_error (numerator : Nat) {denominator : Nat} (positive : 0 < denominator) :
    |(nearest numerator denominator : ℚ) - numerator / denominator| ≤
      1 / 2 + numerator / denominator / 2 ^ 53 := by
  have near := nearest_near numerator positive
  have some : (0 : ℚ) ≤ numerator / denominator := by positivity
  rcases last_digit numerator denominator with whole | ⟨given, _⟩
  · rw [whole, pow_zero] at near
    linarith
  · linarith

-- A quotient of 53 digits or more is off by so small a part of itself.
theorem long_quotient_error {numerator denominator : Nat} (positive : 0 < denominator)
    (long : 2 ^ 52 ≤ numerator / denominator) :
    |(nearest numerator denominator : ℚ) - numerator / denominator| ≤
      nearest numerator denominator / 2 ^ 53 := by
  have near := nearest_near numerator positive
  rcases last_digit numerator denominator with whole | ⟨_, kept⟩
  · have some : numerator / denominator ≠ 0 := by omega
    have digits : 2 ^ 52 ≤ nearest numerator denominator :=
      Nat.le_trans (Nat.pow_le_pow_right (by decide) ((Nat.le_log2 some).mpr long))
        (two_pow_log2_le_nearest some)
    have digits' : (2 : ℚ) ^ 52 ≤ nearest numerator denominator := by exact_mod_cast digits
    rw [whole, pow_zero] at near
    linarith
  · linarith

end Chronomata.Decimal
