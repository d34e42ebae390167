import Chronomata.Decimal.Basic
import Chronomata.Proofs.Decimal.Interval

-- Reading a decimal: the float that is read is the one nearest to the number that the digits say, however
-- many digits there are, and it is infinite when no float is large enough.
namespace Chronomata.Decimal

open Float.Model Float.Model.UnpackedFloat

theorem Rounded.worth {x : Float} {amount : Nat} (rounded : Rounded x amount)
    (fits : amount < limit) : IsAmount x amount := by
  cases rounded with
  | finite _ worth => exact worth
  | infinite large _ => exact absurd fits (Nat.not_lt_of_le large)

theorem two_pow_le_nearest {numerator denominator places : Nat}
    (large : 2 ^ places ≤ numerator / denominator) : 2 ^ places ≤ nearest numerator denominator := by
  have some : numerator / denominator ≠ 0 :=
    Nat.ne_of_gt (Nat.lt_of_lt_of_le (Nat.two_pow_pos _) large)
  have fits : excess (numerator / denominator) ≤ (numerator / denominator).log2 := Nat.sub_le _ _
  have kept : 2 ^ ((numerator / denominator).log2 - excess (numerator / denominator)) ≤
      numerator / denominator / 2 ^ excess (numerator / denominator) := by
    rw [Nat.le_div_iff_mul_le (Nat.two_pow_pos _), ← two_pow_split fits]
    exact Nat.log2_self_le some
  have rounded := (roundQuotient_bounds .even numerator
    (denominator * 2 ^ excess (numerator / denominator))).1
  rw [← Nat.div_div_eq_div_mul] at rounded
  calc 2 ^ places ≤ 2 ^ (numerator / denominator).log2 :=
        Nat.pow_le_pow_right (by decide) ((Nat.le_log2 some).mpr large)
    _ = 2 ^ ((numerator / denominator).log2 - excess (numerator / denominator)) *
        2 ^ excess (numerator / denominator) := two_pow_split fits
    _ ≤ nearest numerator denominator := Nat.mul_le_mul_right _ (Nat.le_trans kept rounded)

theorem nearest_vanishes {numerator denominator : Nat} (small : 2 * numerator < denominator) :
    nearest numerator denominator = 0 := by
  have none : numerator / denominator = 0 := Nat.div_eq_of_lt (by omega)
  have rest : numerator % denominator = numerator := Nat.mod_eq_of_lt (by omega)
  simp only [nearest, none, show excess 0 = 0 from rfl, Nat.pow_zero, Nat.mul_one]
  rw [roundQuotient_low _ (by rwa [rest]), none]

-- A number without a fraction, in least units.
theorem whole_units : 2 ^ ((0 : Int) + 1074).toNat = unity := by
  unfold unity
  congr 1

theorem nearest_product (first second : Nat) :
    nearest (first * unity * (second * unity)) unity = nearest (first * second * unity) 1 := by
  have scaled := nearest_scaled (first * second * unity) 1 unity_pos
  rw [Nat.one_mul] at scaled
  rw [Nat.mul_mul_mul_comm, ← Nat.mul_assoc, scaled]

theorem two_pow_le_ten_pow (places : Nat) : 2 ^ places ≤ 10 ^ places :=
  Nat.pow_le_pow_left (by decide) places

-- The powers of ten that floats hold exactly.
theorem tenPower_worth {places : Nat} (few : places ≤ 22)
    (listed : places < Float.exactlyRepresentablePowersOfTen.size) :
    IsAmount (Float.exactlyRepresentablePowersOfTen[places]) (10 ^ places * unity) := by
  have exact : ∀ places : Fin 23, (binary? Float.exactlyRepresentablePowersOfTen[places]).any
      fun b => !b.negative && b.amount == 10 ^ places.val * unity := by decide +kernel
  have held := exact ⟨places, by omega⟩
  obtain ⟨b, exact, same⟩ := (Option.any_eq_true _ _).mp held
  simp only [Bool.and_eq_true, Bool.not_eq_true', beq_iff_eq] at same
  exact isAmount_iff.mpr ⟨b, exact, same⟩

theorem toFloat_worth {digits : Nat} (few : digits < 2 ^ 53) :
    IsAmount digits.toUInt64.toFloat (digits * unity) := by
  have same : digits.toUInt64.toNat = digits := by
    rw [Nat.toUInt64, UInt64.toNat_ofNat']
    exact Nat.mod_eq_of_lt (Nat.lt_trans few (by decide))
  have rounded := toFloat_rounded digits.toUInt64
  rw [same, unity, nearest_exact few] at rounded
  exact rounded.worth (lt_limit few (by decide))

section Any

variable {digits : Nat}

theorem exponents_eq : (2 : Int) ^ Format.binary64.exponentBits = 2048 := rfl

-- Digits that count by a power of ten.
theorem upward_rounded (some : digits ≠ 0) (places : Nat) :
    Rounded (.ofModel (.ofScientific digits places)) (nearest (digits * 10 ^ places * unity) 1) := by
  have positive : 0 < digits := Nat.pos_of_ne_zero some
  unfold Float.Model.ofScientific UnpackedFloat.ofScientific
  rw [dif_neg some, exponents_eq]
  by_cases huge : (places : Int) > 2048
  · rw [if_pos huge]
    refine .infinite ?_ (unpack_pack_infinity .positive)
    refine two_pow_le_nearest ?_
    rw [Nat.div_one]
    calc limit ≤ 2 ^ (places + 1074) := limit_le_two_pow.mpr (by omega)
      _ = 1 * 2 ^ places * unity := by rw [Nat.one_mul, two_pow_mul_unity]
      _ ≤ digits * 10 ^ places * unity :=
        Nat.mul_le_mul_right _ (Nat.mul_le_mul positive (two_pow_le_ten_pow places))
  · rw [if_neg huge, if_neg (by omega), if_pos (by omega)]
    have shift : digits <<< Format.binary64.mantissaBits = digits * 2 ^ 53 := Nat.shiftLeft_eq _ _
    have shifted : 0 < digits <<< Format.binary64.mantissaBits := by
      rw [shift]
      exact Nat.mul_pos positive (Nat.two_pow_pos _)
    have ten : 0 < 10 ^ (places : Int).toNat := Nat.pow_pos (by decide)
    have many : 53 ≤ (digits <<< Format.binary64.mantissaBits * 10 ^ (places : Int).toNat).log2 := by
      rw [Nat.le_log2 (Nat.ne_of_gt (Nat.mul_pos shifted ten)), shift]
      calc 2 ^ 53 ≤ digits * 2 ^ 53 := Nat.le_mul_of_pos_left _ positive
        _ ≤ digits * 2 ^ 53 * 10 ^ (places : Int).toNat := Nat.le_mul_of_pos_right _ ten
    have least : (-1074 : Int) ≤ -(Format.binary64.mantissaBits : Int) := by decide
    have least' : (-1074 : Int) ≤ 0 := by decide
    have exponent : -(Format.binary64.mantissaBits : Int) = -53 := rfl
    have amount : nearest (digits <<< Format.binary64.mantissaBits *
        2 ^ (-(Format.binary64.mantissaBits : Int) + 1074).toNat *
          (10 ^ (places : Int).toNat * 2 ^ ((0 : Int) + 1074).toNat)) unity =
        nearest (digits * 10 ^ places * unity) 1 := by
      have units : digits * 2 ^ 53 * 2 ^ ((-53 : Int) + 1074).toNat = digits * unity :=
        mul_two_pow_eq digits rfl
      rw [shift, exponent, units, whole_units, Int.toNat_natCast, nearest_product]
    have stands := product_stands shifted ten least least' (by omega)
    rw [amount] at stands
    exact pack_rounded stands

-- Digits that are divided by a power of ten.
theorem downward_rounded (some : digits ≠ 0) {places : Nat} (fraction : 0 < places) :
    Rounded (.ofModel (.ofScientific digits (-places))) (nearest (digits * unity) (10 ^ places)) := by
  have positive : 0 < digits := Nat.pos_of_ne_zero some
  unfold Float.Model.ofScientific UnpackedFloat.ofScientific
  rw [dif_neg some, exponents_eq, if_neg (by omega)]
  by_cases tiny : (-places : Int) < -(2048 + (digits.log2 : Int))
  · have vanishes : nearest (digits * unity) (10 ^ places) = 0 := by
      apply nearest_vanishes
      calc 2 * (digits * unity) < 2 * (2 ^ (digits.log2 + 1) * unity) := by
            have less := Nat.mul_lt_mul_of_pos_right (@Nat.lt_log2_self digits) unity_pos
            exact Nat.mul_lt_mul_of_pos_left less (by decide)
        _ = 2 ^ (digits.log2 + 1 + 1074 + 1) := by
            rw [two_pow_mul_unity, Nat.mul_comm, ← Nat.pow_succ]
        _ ≤ 2 ^ places := Nat.pow_le_pow_right (by decide) (by omega)
        _ ≤ 10 ^ places := two_pow_le_ten_pow places
    rw [if_pos tiny, vanishes]
    exact pack_rounded .zero
  · rw [if_neg tiny, if_neg (by omega)]
    have ten : 0 < 10 ^ (-(-(places : Int))).toNat := Nat.pow_pos (by decide)
    have whole : (-1074 : Int) ≤ 0 := by decide
    have stands := quotient_stands positive ten whole whole
    have amount : nearest (digits * 2 ^ ((0 : Int) + 1074).toNat * unity)
        (10 ^ (-(-(places : Int))).toNat * 2 ^ ((0 : Int) + 1074).toNat) =
          nearest (digits * unity) (10 ^ places) := by
      rw [Int.neg_neg, Int.toNat_natCast, whole_units, nearest_scaled _ _ unity_pos]
    rw [amount] at stands
    exact pack_rounded stands

end Any

-- What digits say, as a quotient of least units.
theorem ofScientific_upward (digits places : Nat) :
    Rounded (Float.ofScientific digits false places) (nearest (digits * 10 ^ places * unity) 1) := by
  unfold Float.ofScientific
  split
  · rename_i few
    rw [← nearest_product]
    exact mul_rounded (toFloat_worth few.1) (tenPower_worth few.2 _)
  · by_cases none : digits = 0
    · subst none
      rw [Nat.zero_mul, Nat.zero_mul, nearest_zero]
      exact pack_rounded .zero
    · exact upward_rounded none places

theorem ofScientific_downward (digits : Nat) {places : Nat} (fraction : 0 < places) :
    Rounded (Float.ofScientific digits true places) (nearest (digits * unity) (10 ^ places)) := by
  unfold Float.ofScientific
  split
  · rename_i few
    have some : 0 < 10 ^ places * unity := Nat.mul_pos (Nat.pow_pos (by decide)) unity_pos
    rw [← nearest_scaled _ _ unity_pos]
    exact div_rounded (toFloat_worth few.1) (tenPower_worth few.2 _) some
  · have opposite : Int.negOfNat places = -(places : Int) := by
      cases places <;> rfl
    rw [if_pos rfl, opposite]
    by_cases none : digits = 0
    · subst none
      rw [Nat.zero_mul, nearest_zero]
      exact pack_rounded .zero
    · exact downward_rounded none fraction

-- A decimal is read as the float nearest to what it says.
theorem ofScientific_rounded (digits : Nat) (exponent : Int) :
    Rounded (Float.ofScientific digits (exponent < 0) exponent.natAbs)
      (nearest ((scaled 10 digits exponent).1 * unity) (scaled 10 digits exponent).2) := by
  unfold scaled
  split
  · rename_i whole
    obtain ⟨places, rfl⟩ := Int.eq_ofNat_of_zero_le whole
    rw [decide_eq_false (by omega)]
    exact ofScientific_upward digits places
  · rename_i fraction
    obtain ⟨places, rfl⟩ : ∃ places : Nat, exponent = -places := ⟨exponent.natAbs, by omega⟩
    rw [decide_eq_true (by omega), Int.natAbs_neg, Int.neg_neg]
    exact ofScientific_downward digits (by omega)

def Literal.value (l : Literal) : ℚ := l.digits * 10 ^ l.exponent

theorem IsAmount.not_isInf {x : Float} {amount : Nat} (worth : IsAmount x amount) :
    x.isInf = false := by
  show UnpackedFloat.isInf x.toModel.unpack = false
  unfold IsAmount at worth
  generalize x.toModel.unpack = f at worth
  cases worth <;> rfl

-- A decimal says a float if it is in the interval of that float; zero is said by itself alone.
def Binary.SaidBy (b : Binary) (x : ℚ) : Prop :=
  if b.mantissa = 0 then x = 0 else b.Covers x

theorem Literal.worth {l : Literal} {b : Binary} (formed : b.Formed) (said : b.SaidBy l.value) :
    IsAmount (Float.ofScientific l.digits (l.exponent < 0) l.exponent.natAbs) b.amount := by
  have rounded := ofScientific_rounded l.digits l.exponent
  have most := formed.most
  have fits : b.amount < limit := lt_limit formed.bounded (by omega)
  have quotient : l.value =
      (scaled 10 l.digits l.exponent).1 / (scaled 10 l.digits l.exponent).2 := by
    rw [scaled_value]
    rfl
  unfold Binary.SaidBy at said
  split at said
  · rename_i zero
    have ten : (10 : ℚ) ^ l.exponent ≠ 0 := zpow_ne_zero _ (by norm_num)
    have none : l.digits = 0 := Nat.cast_eq_zero.mp ((mul_eq_zero.mp said).resolve_right ten)
    have amount : b.amount = 0 := by rw [Binary.amount, zero, Nat.zero_mul]
    have nothing : (scaled 10 l.digits l.exponent).1 = 0 := by
      unfold scaled
      split <;> simp [none]
    rw [nothing, Nat.zero_mul, nearest_zero, ← amount] at rounded
    exact rounded.worth fits
  · rename_i some
    rw [quotient] at said
    rw [said.nearest formed some (scaled_pos (by decide) _ _)] at rounded
    exact rounded.worth fits

-- Whatever says a float is read as that float.
theorem Literal.toFloat?_eq {l : Literal} {x : Float} {b : Binary} (exact : binary? x = some b)
    (sign : l.negative = b.negative) (said : b.SaidBy l.value) : l.toFloat? = some x := by
  have worth := Literal.worth (binary?_formed exact) said
  unfold Literal.toFloat?
  simp only [worth.not_isInf, Bool.false_eq_true, if_false]
  rw [eq_of_amount exact worth, sign]

end Chronomata.Decimal
