import Chronomata.Proofs.Decimal.Reading

-- The shortest decimal of a float says that float, and seventeen digits are always enough to find one.
namespace Chronomata.Decimal

theorem Digits.strip_value (fuel : Nat) (d : Digits) : (d.strip fuel).value = d.value := by
  induction fuel generalizing d with
  | zero => rfl
  | succ fuel ih =>
    unfold Digits.strip
    split
    · rename_i zeros
      have whole : d.digits = 10 * (d.digits / 10) := by omega
      rw [ih, Digits.value, Digits.value, zpow_add_one₀ (by norm_num)]
      conv => rhs; rw [whole]
      push_cast
      ring
    · rfl

namespace Binary

variable {b : Binary} {tie : Tie} {place : Int}

theorem named_of_nearestOn {digits : Nat} (found : b.nearestOn tie place = some digits) :
    b.isNamedBy place digits := by
  unfold nearestOn at found
  grind

theorem unit_pos (place : Int) : 0 < (scaled 10 1 place).1 := by
  unfold scaled
  split
  · exact Nat.mul_pos Nat.one_pos (Nat.pow_pos (by decide))
  · exact Nat.one_pos

theorem overPlace_pos (b : Binary) (place : Int) : 0 < (b.overPlace place).2 :=
  Nat.mul_pos (scaled_pos (by decide) _ _) (unit_pos place)

-- The value counted in steps of a decimal place.
theorem overPlace_value (b : Binary) (place : Int) :
    ((b.overPlace place).1 : ℚ) / (b.overPlace place).2 * 10 ^ place = b.value := by
  have value : ((scaled 2 b.mantissa b.exponent).1 : ℚ) / (scaled 2 b.mantissa b.exponent).2 =
      b.value := scaled_value 2 b.mantissa b.exponent
  have unit : ((scaled 10 1 place).1 : ℚ) / (scaled 10 1 place).2 = 10 ^ place := by
    rw [scaled_value]
    simp
  have top : ((scaled 10 1 place).1 : ℚ) ≠ 0 := by exact_mod_cast (unit_pos place).ne'
  have bottom : ((scaled 10 1 place).2 : ℚ) ≠ 0 := by
    exact_mod_cast (scaled_pos (by decide) 1 place).ne'
  have bottom' : ((scaled 2 b.mantissa b.exponent).2 : ℚ) ≠ 0 := by
    exact_mod_cast (scaled_pos (by decide) b.mantissa b.exponent).ne'
  have both : b.overPlace place = ((scaled 2 b.mantissa b.exponent).1 * (scaled 10 1 place).2,
      (scaled 2 b.mantissa b.exponent).2 * (scaled 10 1 place).1) := rfl
  rw [both, ← unit, ← value]
  push_cast
  field_simp

-- A value at or above a power of ten.
theorem le_value_iff (b : Binary) (place : Int) :
    (10 : ℚ) ^ place ≤ b.value ↔ (b.overPlace place).2 ≤ (b.overPlace place).1 := by
  have power : (0 : ℚ) < 10 ^ place := by positivity
  have bottom : (0 : ℚ) < (b.overPlace place).2 := by exact_mod_cast b.overPlace_pos place
  rw [← b.overPlace_value place, le_mul_iff_one_le_left power, one_le_div₀ bottom, Nat.cast_le]

-- A power of ten below a power of two, by the first digits of the logarithm of two.
theorem ten_zpow_le_two_zpow {log2 : Int} (least : -1074 ≤ log2) (most : log2 ≤ 1023) :
    (10 : ℚ) ^ (log2 * 30103 / 100000 - 2) ≤ 2 ^ log2 := by
  obtain ⟨estimate, log10⟩ : ∃ estimate, estimate = log2 * 30103 / 100000 - 2 := ⟨_, rfl⟩
  rw [← log10]
  rcases Int.le_total 0 log2 with up | down
  · rcases Int.le_total 0 estimate with whole | fraction
    · obtain ⟨twos, rfl⟩ := Int.eq_ofNat_of_zero_le up
      obtain ⟨tens, rfl⟩ := Int.eq_ofNat_of_zero_le whole
      have cubes : (10 ^ tens) ^ 3 ≤ (2 ^ twos) ^ 3 := by
        calc (10 ^ tens) ^ 3 = (10 ^ 3) ^ tens := Nat.pow_right_comm _ _ _
          _ ≤ (2 ^ 10) ^ tens := Nat.pow_le_pow_left (by decide) _
          _ = 2 ^ (10 * tens) := (Nat.pow_mul _ _ _).symm
          _ ≤ 2 ^ (twos * 3) := Nat.pow_le_pow_right (by decide) (by omega)
          _ = (2 ^ twos) ^ 3 := Nat.pow_mul _ _ _
      exact_mod_cast (Nat.pow_le_pow_iff_left (by decide)).mp cubes
    · exact (zpow_le_one_of_nonpos₀ (by norm_num) fraction).trans (one_le_zpow₀ (by norm_num) up)
  · obtain ⟨twos, rfl⟩ : ∃ twos : Nat, log2 = -twos := ⟨log2.natAbs, by omega⟩
    obtain ⟨tens, rfl⟩ : ∃ tens : Nat, estimate = -tens := ⟨estimate.natAbs, by omega⟩
    have powers : (2 ^ twos) ^ 28 ≤ (10 ^ tens) ^ 28 := by
      calc (2 ^ twos) ^ 28 = 2 ^ (twos * 28) := (Nat.pow_mul _ _ _).symm
        _ ≤ 2 ^ (93 * tens) := Nat.pow_le_pow_right (by decide) (by omega)
        _ = (2 ^ 93) ^ tens := Nat.pow_mul _ _ _
        _ ≤ (10 ^ 28) ^ tens := Nat.pow_le_pow_left (by decide) _
        _ = (10 ^ tens) ^ 28 := Nat.pow_right_comm _ _ _
    have ordered : 2 ^ twos ≤ 10 ^ tens := (Nat.pow_le_pow_iff_left (by decide)).mp powers
    rw [zpow_neg, zpow_neg, zpow_natCast, zpow_natCast]
    exact inv_anti₀ (by positivity) (by exact_mod_cast ordered)

theorem two_zpow_le_value (some : b.mantissa ≠ 0) :
    (2 : ℚ) ^ (b.exponent + b.mantissa.log2) ≤ b.value := by
  have digits : (2 : ℚ) ^ b.mantissa.log2 ≤ b.mantissa := by exact_mod_cast Nat.log2_self_le some
  rw [zpow_add₀ (by norm_num), zpow_natCast, mul_comm, value]
  exact mul_le_mul_of_nonneg_right digits (by positivity)

-- The value does not start later than at the point.
theorem point_le (formed : b.Formed) (some : b.mantissa ≠ 0) :
    (10 : ℚ) ^ (b.point - 1) ≤ b.value := by
  have least := formed.least
  have most := formed.most
  have digits : b.mantissa.log2 < 53 := (Nat.log2_lt some).mpr formed.bounded
  obtain ⟨log2, size⟩ : ∃ log2 : Int, log2 = b.exponent + b.mantissa.log2 := ⟨_, rfl⟩
  have start : (10 : ℚ) ^ (log2 * 30103 / 100000 - 1 - 1) ≤ b.value := by
    rw [sub_sub]
    exact (ten_zpow_le_two_zpow (by omega) (by omega)).trans (size ▸ two_zpow_le_value some)
  unfold point
  dsimp only
  rw [← size, List.find?_map]
  generalize log2 * 30103 / 100000 - 1 = estimate at start ⊢
  have reached : ∀ i : Nat, !decide ((b.overPlace (estimate + i)).1 < (b.overPlace (estimate + i)).2) →
      (10 : ℚ) ^ (estimate + i) ≤ b.value := by
    intro i above
    rw [le_value_iff]
    simpa using above
  cases found : (List.range 5).find? ((fun p => decide ((b.overPlace p).1 < (b.overPlace p).2)) ∘
      fun i => estimate + Int.ofNat i) with
  | none =>
    have last := reached 4 (List.find?_range_eq_none.mp found 4 (by decide))
    have position : estimate + 5 - 1 = estimate + (4 : Nat) := by omega
    rwa [Option.map_none, Option.getD_none, position]
  | some i =>
    obtain ⟨_, _, before⟩ := List.find?_range_eq_some.mp found
    rw [Option.map_some, Option.getD_some]
    cases i with
    | zero => rwa [Int.ofNat_eq_natCast, Nat.cast_zero, add_zero]
    | succ i =>
      have position : estimate + Int.ofNat (i + 1) - 1 = estimate + i := by
        rw [Int.ofNat_eq_natCast]
        omega
      rw [position]
      exact reached i (before i (Nat.lt_succ_self i))

-- The nearest point on a grid is at most half a step away.
theorem grid_near (tie : Tie) (b : Binary) (place : Int) {digits : Nat}
    (rounded : digits = roundQuotient tie (b.overPlace place).1 (b.overPlace place).2) :
    2 * b.value ≤ (2 * digits + 1) * 10 ^ place ∧
      2 * digits * 10 ^ place ≤ 2 * b.value + 10 ^ place := by
  obtain ⟨lower, upper⟩ := roundQuotient_near tie (b.overPlace place).1 (b.overPlace_pos place)
  rw [← rounded] at lower upper
  have bottom : (0 : ℚ) < (b.overPlace place).2 := by exact_mod_cast b.overPlace_pos place
  have positive : (0 : ℚ) < 10 ^ place := by positivity
  have steps : b.value * (b.overPlace place).2 = (b.overPlace place).1 * 10 ^ place := by
    rw [← b.overPlace_value place]
    field_simp
  generalize (10 : ℚ) ^ place = step at *
  constructor
  · have scaled : (2 * (b.overPlace place).1 : ℚ) * step ≤
        (2 * digits + 1) * (b.overPlace place).2 * step :=
      mul_le_mul_of_nonneg_right (by exact_mod_cast lower) positive.le
    exact le_of_mul_le_mul_right (by linarith) bottom
  · have scaled : (2 * digits * (b.overPlace place).2 : ℚ) * step ≤
        (2 * (b.overPlace place).1 + (b.overPlace place).2) * step :=
      mul_le_mul_of_nonneg_right (by exact_mod_cast upper) positive.le
    exact le_of_mul_le_mul_right (by linarith) bottom

-- A number closer to the value than half a step of seventeen digits is inside the interval.
theorem inside_of_near (formed : b.Formed) (some : b.mantissa ≠ 0) {x step : ℚ}
    (fine : step * 10 ^ 16 ≤ b.value) (above : 2 * b.value ≤ 2 * x + step)
    (below : 2 * x ≤ 2 * b.value + step) :
    b.quarters.1 * b.quarter < x ∧ x < b.quarters.2.2 * b.quarter := by
  have positive := b.quarter_pos
  rw [value_quarters] at fine above below
  have bounded : (b.mantissa : ℚ) ≤ 2 ^ 53 - 1 := by
    have next : (b.mantissa : ℚ) + 1 ≤ 2 ^ 53 := by exact_mod_cast formed.bounded
    linarith
  have most := mul_le_mul_of_nonneg_right bounded positive.le
  constructor
  · unfold quarters
    dsimp only
    split
    · rename_i power
      have low : ((4 * b.mantissa - 1 : Nat) : ℚ) = 4 * b.mantissa - 1 := by
        rw [Nat.cast_sub (by omega)]
        norm_num
      have exact : (b.mantissa : ℚ) = 2 ^ 52 := by exact_mod_cast power.1
      rw [low]
      rw [exact] at fine above below ⊢
      nlinarith
    · have low : ((4 * b.mantissa - 2 : Nat) : ℚ) = 4 * b.mantissa - 2 := by
        rw [Nat.cast_sub (by omega)]
        norm_num
      rw [low]
      nlinarith
  · have high : ((b.quarters.2.2 : Nat) : ℚ) = 4 * b.mantissa + 2 := by
      rw [show b.quarters.2.2 = 4 * b.mantissa + 2 from rfl]
      norm_num
    rw [high]
    nlinarith

-- A grid of sixteen digits below the first one is so fine that the point nearest to the value still
-- names the float.
theorem nearestOn_isSome (formed : b.Formed) (some : b.mantissa ≠ 0)
    (fine : (10 : ℚ) ^ (place + 16) ≤ b.value) : (b.nearestOn tie place).isSome := by
  obtain ⟨digits, rounded⟩ : ∃ digits,
      digits = roundQuotient tie (b.overPlace place).1 (b.overPlace place).2 := ⟨_, rfl⟩
  obtain ⟨above, below⟩ := b.grid_near tie place rounded
  have named : b.isNamedBy place digits := by
    rw [isNamedBy_iff]
    rw [zpow_add₀ (by norm_num)] at fine
    have inside := inside_of_near (x := digits * 10 ^ place) formed some (by exact_mod_cast fine)
      (by linarith) (by linarith)
    exact ⟨inside.1.le, inside.2.le, .inr inside⟩
  unfold nearestOn
  rw [rounded] at named
  simp only [named, if_true, Option.isSome_some]

end Binary

-- The shortest decimal of a float says it.
theorem shortest_says {b : Binary} (formed : b.Formed) (tie : Tie) :
    b.SaidBy (shortest tie b).value := by
  unfold Binary.SaidBy shortest
  split
  · simp [Digits.value]
  · rename_i some
    have last : (b.nearestOn tie (b.point - (Int.ofNat 16 + 1))).isSome := by
      apply Binary.nearestOn_isSome formed some
      have start : b.point - (Int.ofNat 16 + 1) + 16 = b.point - 1 := by
        rw [Int.ofNat_eq_natCast]
        omega
      rw [start]
      exact Binary.point_le formed some
    dsimp only
    cases found : (List.range mostDigits).findSome? fun n =>
        (b.nearestOn tie (b.point - (Int.ofNat n + 1))).map fun digits =>
          Digits.strip (mostDigits + 1) ⟨digits, b.point - (Int.ofNat n + 1)⟩ with
    | none =>
      have none := List.findSome?_eq_none_iff.mp found 16 (by decide)
      rw [Option.map_eq_none_iff] at none
      rw [none] at last
      cases last
    | some d =>
      obtain ⟨n, _, stripped⟩ := List.exists_of_findSome?_eq_some found
      obtain ⟨digits, here, rfl⟩ := Option.map_eq_some_iff.mp stripped
      rw [Option.getD_some, Digits.strip_value, ← Binary.isNamedBy_iff]
      exact Binary.named_of_nearestOn here

-- Only zero has no digits, and it has no exponent either.
theorem shortest_plain {b : Binary} (formed : b.Formed) (tie : Tie)
    (none : (shortest tie b).digits = 0) : (shortest tie b).exponent = 0 := by
  by_cases zero : b.mantissa = 0
  · rw [shortest, if_pos zero]
  · have said := shortest_says formed tie
    rw [Binary.SaidBy, if_neg zero, Digits.value, none, Nat.cast_zero, zero_mul] at said
    have low : 0 < b.quarters.1 := by
      unfold Binary.quarters
      dsimp only
      split <;> omega
    have above : 0 < b.quarters.1 * b.quarter :=
      mul_pos (by exact_mod_cast low) b.quarter_pos
    exact absurd said.above (not_le_of_gt above)

end Chronomata.Decimal
