import Chronomata.Decimal.Notation
import Chronomata.Proofs.Decimal.Fields

-- The interval of the numbers that round to a float. Whatever lies in it is rounded to that float, and
-- whatever names the float lies in it.
namespace Chronomata.Decimal

def Digits.value (d : Digits) : ℚ := d.digits * 10 ^ d.exponent

-- What a number is worth, apart from its sign.
def Binary.value (b : Binary) : ℚ := b.mantissa * 2 ^ b.exponent

theorem scaled_pos {base : Nat} (positive : 0 < base) (value : Nat) (exponent : Int) :
    0 < (scaled base value exponent).2 := by
  unfold scaled
  split
  · exact Nat.one_pos
  · exact Nat.pow_pos positive

theorem scaled_value (base value : Nat) (exponent : Int) :
    ((scaled base value exponent).1 : ℚ) / (scaled base value exponent).2 =
      value * (base : ℚ) ^ exponent := by
  unfold scaled
  split
  · rename_i whole
    obtain ⟨places, rfl⟩ := Int.eq_ofNat_of_zero_le whole
    simp
  · rename_i fraction
    obtain ⟨places, opposite⟩ := Int.eq_ofNat_of_zero_le (show 0 ≤ -exponent by omega)
    have power : exponent = -(places : Int) := by omega
    subst power
    simp [div_eq_mul_inv]

-- The interval is measured in quarters of the last place.
def Binary.quarter (b : Binary) : ℚ := 2 ^ (b.exponent - 2)

theorem Binary.quarter_pos (b : Binary) : 0 < b.quarter := by
  unfold quarter
  positivity

theorem Binary.value_quarters (b : Binary) : b.value = 4 * b.mantissa * b.quarter := by
  have split : (2 : ℚ) ^ b.exponent = 2 ^ (b.exponent - 2) * 2 ^ (2 : Int) := by
    rw [← zpow_add₀ (by norm_num), sub_add_cancel]
  rw [value, quarter, split]
  norm_num
  ring

structure Binary.Covers (b : Binary) (x : ℚ) : Prop where
  above : b.quarters.1 * b.quarter ≤ x
  below : x ≤ b.quarters.2.2 * b.quarter
  ends : b.mantissa % 2 = 0 ∨ b.quarters.1 * b.quarter < x ∧ x < b.quarters.2.2 * b.quarter

-- Quarters against a decimal, both fractions cleared.
theorem Binary.cleared_iff {b : Binary} {place : Int} {digits : Nat} {unit shown : Nat × Nat}
    (unitValue : unit = scaled 2 1 (b.exponent - 2)) (shownValue : shown = scaled 10 digits place)
    (count : Nat) :
    (count * unit.1 * shown.2 ≤ shown.1 * unit.2 ↔
      count * b.quarter ≤ Digits.value ⟨digits, place⟩) ∧
    (shown.1 * unit.2 ≤ count * unit.1 * shown.2 ↔
      Digits.value ⟨digits, place⟩ ≤ count * b.quarter) := by
  have unitPos : (0 : ℚ) < unit.2 := by
    rw [unitValue]
    exact_mod_cast scaled_pos (by decide) 1 _
  have shownPos : (0 : ℚ) < shown.2 := by
    rw [shownValue]
    exact_mod_cast scaled_pos (by decide) digits _
  have quarter : b.quarter = unit.1 / unit.2 := by
    rw [unitValue, scaled_value]
    simp [Binary.quarter]
  have value : Digits.value ⟨digits, place⟩ = shown.1 / shown.2 := by
    rw [shownValue, scaled_value]
    rfl
  rw [quarter, value, ← mul_div_assoc]
  constructor
  · rw [div_le_div_iff₀ unitPos shownPos]
    norm_cast
  · rw [div_le_div_iff₀ shownPos unitPos]
    norm_cast

theorem Binary.isNamedBy_iff {b : Binary} {place : Int} {digits : Nat} :
    b.isNamedBy place digits ↔ b.Covers (Digits.value ⟨digits, place⟩) := by
  obtain ⟨unit, unitValue⟩ : ∃ unit, unit = scaled 2 1 (b.exponent - 2) := ⟨_, rfl⟩
  obtain ⟨shown, shownValue⟩ : ∃ shown, shown = scaled 10 digits place := ⟨_, rfl⟩
  have unfolded : b.isNamedBy place digits =
      if b.mantissa % 2 = 0 then
        decide (b.quarters.1 * unit.1 * shown.2 ≤ shown.1 * unit.2 ∧
          shown.1 * unit.2 ≤ b.quarters.2.2 * unit.1 * shown.2)
      else
        decide (b.quarters.1 * unit.1 * shown.2 < shown.1 * unit.2 ∧
          shown.1 * unit.2 < b.quarters.2.2 * unit.1 * shown.2) := by
    rw [unitValue, shownValue]
    rfl
  have clears := cleared_iff unitValue shownValue
  rw [unfolded]
  constructor
  · intro named
    split at named
    · rename_i even
      obtain ⟨above, below⟩ := of_decide_eq_true named
      exact ⟨(clears _).1.mp above, (clears _).2.mp below, .inl even⟩
    · obtain ⟨above, below⟩ := of_decide_eq_true named
      have more := lt_of_not_ge (mt (clears _).2.mpr (Nat.not_le_of_lt above))
      have less := lt_of_not_ge (mt (clears _).1.mpr (Nat.not_le_of_lt below))
      exact ⟨more.le, less.le, .inr ⟨more, less⟩⟩
  · intro covered
    split
    · exact decide_eq_true ⟨(clears _).1.mpr covered.above, (clears _).2.mpr covered.below⟩
    · rename_i odd
      obtain ⟨more, less⟩ := covered.ends.resolve_left odd
      exact decide_eq_true ⟨Nat.lt_of_not_le (mt (clears _).2.mp (not_le_of_gt more)),
        Nat.lt_of_not_le (mt (clears _).1.mp (not_le_of_gt less))⟩

-- A quotient within half a unit of a number is rounded to it, at an end only if the number is even.
theorem roundQuotient_unique {numerator denominator whole : Nat} (positive : 0 < denominator)
    (above : 2 * whole * denominator ≤ 2 * numerator + denominator)
    (below : 2 * numerator ≤ 2 * whole * denominator + denominator)
    (ends : whole % 2 = 0 ∨ 2 * whole * denominator < 2 * numerator + denominator ∧
      2 * numerator < 2 * whole * denominator + denominator) :
    roundQuotient .even numerator denominator = whole := by
  have split := Nat.div_add_mod numerator denominator
  have bound := Nat.mod_lt numerator positive
  unfold roundQuotient
  generalize numerator / denominator = low at *
  generalize numerator % denominator = rest at *
  subst split
  have least : low ≤ whole := by
    by_contra less
    nlinarith [Nat.mul_le_mul_right denominator (show whole + 1 ≤ low by omega)]
  have most : whole ≤ low + 1 := by
    by_contra more
    nlinarith [Nat.mul_le_mul_right denominator (show low + 2 ≤ whole by omega)]
  rcases Nat.eq_or_lt_of_le least with rfl | next
  · grind
  · obtain rfl : whole = low + 1 := by omega
    grind

theorem excess_eq_of_binade {amount places : Nat} (full : 2 ^ (52 + places) ≤ amount ∨ places = 0)
    (bounded : amount < 2 ^ (53 + places)) : excess amount = places := by
  unfold excess
  by_cases zero : amount = 0
  · rcases full with many | none
    · exact absurd (zero ▸ many) (Nat.not_le_of_lt (Nat.two_pow_pos _))
    · simp [zero, none]
  · have fewer := (Nat.log2_lt zero).mpr bounded
    rcases full with many | none
    · have digits := (Nat.le_log2 zero).mpr many
      omega
    · omega

section Binades

variable {units denominator mantissa places width : Nat}

-- A quotient that is rounded at a known place; the width is what one unit there is worth.
theorem nearest_at (positive : 0 < width) (wide : width = 2 ^ places * denominator)
    (full : 2 ^ 52 * width ≤ units ∨ places = 0) (bounded : units < 2 ^ 53 * width)
    (above : 2 * (mantissa * width) ≤ 2 * units + width)
    (below : 2 * units ≤ 2 * (mantissa * width) + width)
    (ends : mantissa % 2 = 0 ∨ 2 * (mantissa * width) < 2 * units + width ∧
      2 * units < 2 * (mantissa * width) + width) :
    nearest units denominator = mantissa * 2 ^ places := by
  have divisor : 0 < denominator := Nat.pos_of_ne_zero fun none => by simp_all
  have lost : excess (units / denominator) = places := by
    apply excess_eq_of_binade
    · refine full.imp_left fun many => ?_
      rwa [Nat.le_div_iff_mul_le divisor, Nat.pow_add, Nat.mul_assoc, ← wide]
    · rwa [Nat.div_lt_iff_lt_mul divisor, Nat.pow_add, Nat.mul_assoc, ← wide]
  have rounded : roundQuotient .even units width = mantissa := by
    apply roundQuotient_unique positive
    · rwa [Nat.mul_assoc]
    · rwa [Nat.mul_assoc]
    · rwa [Nat.mul_assoc]
  rw [Decimal.nearest, lost, Nat.mul_comm denominator, ← wide, rounded]

-- A quotient between the middles to the neighbours of a float, an end counting if the float is even.
theorem nearest_between (positive : 0 < width) (wide : width = 2 ^ places * denominator)
    (bounded : mantissa < 2 ^ 53) (full : 2 ^ 52 ≤ mantissa ∨ places = 0) {low : Nat}
    (close : low = if mantissa = 2 ^ 52 ∧ 0 < places then 1 else 2)
    (above : 4 * (mantissa * width) ≤ 4 * units + low * width)
    (below : 4 * units ≤ 4 * (mantissa * width) + 2 * width)
    (ends : mantissa % 2 = 0 ∨ 4 * (mantissa * width) < 4 * units + low * width ∧
      4 * units < 4 * (mantissa * width) + 2 * width) :
    nearest units denominator = mantissa * 2 ^ places := by
  have most : mantissa * width ≤ (2 ^ 53 - 1) * width := Nat.mul_le_mul_right width (by omega)
  by_cases under : (mantissa = 2 ^ 52 ∧ 0 < places) ∧ units < mantissa * width
  · -- Right below a power of two the units are half as wide, and the power itself is even there.
    obtain ⟨⟨rfl, some⟩, less⟩ := under
    obtain ⟨places, rfl⟩ := Nat.exists_eq_add_one.mpr some
    rw [if_pos ⟨rfl, some⟩] at close
    subst close
    rw [Nat.pow_succ, Nat.mul_right_comm] at wide
    obtain ⟨half, narrow⟩ : ∃ half, half = 2 ^ places * denominator := ⟨_, rfl⟩
    rw [← narrow] at wide
    have power : nearest units denominator = 2 ^ 53 * 2 ^ places :=
      nearest_at (by omega) narrow (by omega) (by omega) (by omega) (by omega) (.inl (by decide))
    rw [power, Nat.pow_succ, Nat.pow_succ]
    ring
  · have low_le : low * width ≤ 2 * width := Nat.mul_le_mul_right _ (by split at close <;> omega)
    refine nearest_at positive wide ?_ (by omega) (by omega) (by omega) (by omega)
    by_cases some : 0 < places
    · left
      rcases Nat.eq_or_lt_of_le (full.resolve_right (Nat.ne_of_gt some)) with power | more
      · rw [power]
        exact Nat.le_of_not_lt fun less => under ⟨⟨power.symm, some⟩, less⟩
      · have next : (2 ^ 52 + 1) * width ≤ mantissa * width := Nat.mul_le_mul_right width more
        omega
    · right
      omega

end Binades

theorem Binary.Formed.quarter_units {b : Binary} (formed : b.Formed) :
    b.quarter * (4 * unity) = 2 ^ (b.exponent + 1074).toNat := by
  have least := formed.least
  have four : (4 : ℚ) = 2 ^ (2 : Int) := by norm_num
  have units : (unity : ℚ) = 2 ^ (1074 : Int) := by
    simp only [unity, Nat.cast_pow, Nat.cast_ofNat]
    exact (zpow_natCast _ _).symm
  rw [quarter, four, units, ← zpow_add₀ (by norm_num), ← zpow_add₀ (by norm_num), ← zpow_natCast]
  congr 1
  omega

-- The interval in least units.
theorem Binary.Formed.quarter_le_iff {b : Binary} (formed : b.Formed) {numerator denominator : Nat}
    (positive : 0 < denominator) (count : Nat) :
    (count * b.quarter ≤ numerator / denominator ↔
      count * 2 ^ (b.exponent + 1074).toNat * denominator ≤ 4 * (numerator * unity)) ∧
    (numerator / denominator ≤ count * b.quarter ↔
      4 * (numerator * unity) ≤ count * 2 ^ (b.exponent + 1074).toNat * denominator) := by
  have units : (0 : ℚ) < 4 * unity := by
    unfold unity
    positivity
  have positive : (0 : ℚ) < denominator := by exact_mod_cast positive
  have scaled : count * b.quarter * denominator * (4 * unity) =
      ((count * 2 ^ (b.exponent + 1074).toNat * denominator : Nat) : ℚ) := by
    push_cast
    rw [← formed.quarter_units]
    ring
  have scaled' : (numerator : ℚ) * (4 * unity) = ((4 * (numerator * unity) : Nat) : ℚ) := by
    push_cast
    ring
  constructor
  · rw [le_div_iff₀ positive, ← mul_le_mul_iff_left₀ units, scaled, scaled', Nat.cast_le]
  · rw [div_le_iff₀ positive, ← mul_le_mul_iff_left₀ units, scaled, scaled', Nat.cast_le]

-- Whatever lies in the interval of a float is rounded to it.
theorem Binary.Covers.nearest {b : Binary} (formed : b.Formed) (some : b.mantissa ≠ 0)
    {numerator denominator : Nat} (positive : 0 < denominator)
    (covers : b.Covers (numerator / denominator)) :
    nearest (numerator * unity) denominator = b.amount := by
  have least := formed.least
  have bounded := formed.bounded
  obtain ⟨above, below, ends⟩ := covers
  rw [(formed.quarter_le_iff positive _).1] at above
  rw [(formed.quarter_le_iff positive _).2] at below
  rw [← not_le, ← not_le, (formed.quarter_le_iff positive _).1, (formed.quarter_le_iff positive _).2,
    not_le, not_le] at ends
  obtain ⟨places, shift⟩ : ∃ places, places = (b.exponent + 1074).toNat := ⟨_, rfl⟩
  obtain ⟨width, wide⟩ : ∃ width, width = 2 ^ places * denominator := ⟨_, rfl⟩
  obtain ⟨low, close⟩ : ∃ low, low = if b.mantissa = 2 ^ 52 ∧ 0 < places then 1 else 2 := ⟨_, rfl⟩
  have lower : b.quarters.1 = 4 * b.mantissa - low := by
    have same : -1074 < b.exponent ↔ 0 < places := by omega
    rw [close, ← ite_congr (propext (and_congr_right' same)) (fun _ => rfl) fun _ => rfl]
    rfl
  have upper : b.quarters.2.2 = 4 * b.mantissa + 2 := rfl
  have enough : low ≤ 4 * b.mantissa := by
    split at close <;> omega
  have room : low * width ≤ 4 * (b.mantissa * width) := by
    rw [← Nat.mul_assoc]
    exact Nat.mul_le_mul_right width enough
  have positive : 0 < width := by
    rw [wide]
    exact Nat.mul_pos (Nat.two_pow_pos _) positive
  have full : 2 ^ 52 ≤ b.mantissa ∨ places = 0 := formed.full.imp_right (by omega)
  simp only [← shift, Nat.mul_assoc, ← wide, lower, upper, Nat.sub_mul, Nat.add_mul]
    at above below ends
  rw [Binary.amount, ← shift]
  exact nearest_between positive wide bounded full close (by omega) (by omega) (by omega)

end Chronomata.Decimal
