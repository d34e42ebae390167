import Chronomata.Proofs.Decimal.Comparison

-- The fields of a float: the exact number that its bits say is the number that arithmetic takes it for,
-- and no other finite float has the same.
namespace Chronomata.Decimal

open Float.Model Float.Model.UnpackedFloat

-- The form in which a finite float holds its number.
structure Binary.Formed (b : Binary) : Prop where
  bounded : b.mantissa < 2 ^ 53
  least : -1074 ≤ b.exponent
  most : b.exponent ≤ 971
  full : 2 ^ 52 ≤ b.mantissa ∨ b.exponent = -1074

-- What the number is worth, apart from its sign.
def Binary.amount (b : Binary) : Nat := b.mantissa * 2 ^ (b.exponent + 1074).toNat

def isNegative : Sign → Bool
  | .negative => true
  | .positive => false

def dyadic? : UnpackedFloat → Option Binary
  | .zero sign => some ⟨isNegative sign, 0, -1074⟩
  | .finite sign mantissa exponent _ => some ⟨isNegative sign, mantissa, exponent⟩
  | _ => none

-- The number that three fields stand for, in plain arithmetic.
def ofParts (sign field fraction : Nat) : Option Binary :=
  if field = 2047 then none
  else if field = 0 then some ⟨sign == 1, fraction, -1074⟩
  else some ⟨sign == 1, 2 ^ 52 + fraction, -1074 + ((field - 1 : Nat) : Int)⟩

theorem binary?_parts (x : Float) : binary? x =
    ofParts (x.toBits.toNat / 2 ^ 63) (x.toBits.toNat / 2 ^ 52 % 2 ^ 11) (x.toBits.toNat % 2 ^ 52) :=
  rfl

theorem dyadic?_ofFields (sign : BitVec 1) (field : BitVec 11) (fraction : BitVec 52) :
    dyadic? (ofFields (.ofBitVec sign) field fraction) =
      ofParts sign.toNat field.toNat fraction.toNat := by
  have signed : isNegative (.ofBitVec sign) = (sign.toNat == 1) := by
    have bound := sign.isLt
    unfold Sign.ofBitVec
    split
    · rename_i none
      rw [none]
      rfl
    · rename_i some
      have one : sign.toNat ≠ 0 := fun same => some (BitVec.eq_of_toNat_eq same)
      rw [show sign.toNat = 1 by omega]
      rfl
  have high : field = -1#11 ↔ field.toNat = 2047 := BitVec.toNat_inj.symm
  have low : field = 0#11 ↔ field.toNat = 0 := BitVec.toNat_inj.symm
  have none : fraction = 0#52 ↔ fraction.toNat = 0 := BitVec.toNat_inj.symm
  unfold ofFields ofParts
  simp only [high, low, none]
  split_ifs with all infinite zero nothing
  · rfl
  · rfl
  · rw [nothing]
    simp only [dyadic?, signed]
  · simp only [dyadic?, signed]
  · simp only [dyadic?, signed, append_one_toNat, Option.some.injEq, Binary.mk.injEq, true_and]
    omega

theorem binary?_eq (x : Float) : binary? x = dyadic? x.toModel.unpack := by
  show _ = dyadic? (UnpackedFloat.unpack Format.binary64 x.toModel.toBits.toBitVec)
  rw [unpack_fields, dyadic?_ofFields, binary?_parts]
  have bits : x.toBits.toNat = x.toModel.toBits.toBitVec.toNat := rfl
  have bound := x.toModel.toBits.toBitVec.isLt
  generalize x.toModel.toBits.toBitVec = packed at bits bound
  have sign : (@unpackSign Format.binary64 packed).toNat = x.toBits.toNat / 2 ^ 63 := by
    change (packed.toNat >>> 63) % 2 = _
    rw [bits, Nat.shiftRight_eq_div_pow, Nat.mod_eq_of_lt (by omega)]
  have field : (@unpackExponent Format.binary64 packed).toNat = x.toBits.toNat / 2 ^ 52 % 2 ^ 11 := by
    change (packed.toNat >>> 52) % 2 ^ 11 = _
    rw [bits, Nat.shiftRight_eq_div_pow]
  have fraction : (@unpackMantissa Format.binary64 packed).toNat = x.toBits.toNat % 2 ^ 52 := by
    change (packed.toNat >>> 0) % 2 ^ 52 = _
    rw [bits, Nat.shiftRight_zero]
  rw [sign, field, fraction]

-- The parts of bits make them up again.
theorem ofParts_injective {sign sign' field field' fraction fraction' : Nat} {b : Binary}
    (one : sign < 2) (one' : sign' < 2) (small : fraction < 2 ^ 52) (small' : fraction' < 2 ^ 52)
    (same : ofParts sign field fraction = some b) (same' : ofParts sign' field' fraction' = some b) :
    sign = sign' ∧ field = field' ∧ fraction = fraction' := by
  have both := same.trans same'.symm
  unfold ofParts at both same
  split_ifs at both same <;>
    simp only [Option.some.injEq, Binary.mk.injEq] at both same <;> grind

theorem binary?_injective {x y : Float} {b : Binary} (exact : binary? x = some b)
    (exact' : binary? y = some b) : x = y := by
  rw [binary?_parts] at exact exact'
  have bound := x.toBits.toNat_lt
  have bound' := y.toBits.toNat_lt
  obtain ⟨sign, field, fraction⟩ := ofParts_injective (by omega) (by omega)
    (Nat.mod_lt _ (by decide)) (Nat.mod_lt _ (by decide)) exact exact'
  have bits : x.toBits.toNat = y.toBits.toNat := by omega
  have same : x.toModel.toBits = y.toModel.toBits := UInt64.toNat.inj bits
  cases x with
  | ofModel model =>
    cases y with
    | ofModel model' =>
      cases model
      cases model'
      cases same
      rfl

theorem isFinite_eq (x : Float) : x.isFinite = (binary? x).isSome := by
  rw [binary?_eq]
  show UnpackedFloat.isFinite x.toModel.unpack = _
  cases x.toModel.unpack <;> rfl

theorem binary?_formed {x : Float} {b : Binary} (exact : binary? x = some b) : b.Formed := by
  rw [binary?_eq] at exact
  cases shape : x.toModel.unpack with
  | notANumber => rw [shape] at exact; cases exact
  | infinity sign => rw [shape] at exact; cases exact
  | zero sign =>
    rw [shape] at exact
    cases exact
    exact ⟨Nat.two_pow_pos 53, Int.le_refl _, Int.neg_le_of_neg_le (by decide), .inr rfl⟩
  | finite sign mantissa exponent positive =>
    rw [shape] at exact
    cases exact
    obtain ⟨form, most⟩ := unpack_canonical shape
    exact ⟨form.bounded, form.least, most, form.full⟩

-- A float that is not negative is worth the amount of its number.
theorem isAmount_iff {x : Float} {amount : Nat} :
    IsAmount x amount ↔ ∃ b, binary? x = some b ∧ b.negative = false ∧ b.amount = amount := by
  rw [IsAmount, binary?_eq]
  constructor
  · intro worth
    generalize x.toModel.unpack = f at worth
    cases worth with
    | zero => exact ⟨_, rfl, rfl, Nat.zero_mul _⟩
    | finite form => exact ⟨_, rfl, rfl, rfl⟩
  · rintro ⟨b, exact, positive, rfl⟩
    cases shape : x.toModel.unpack with
    | notANumber => rw [shape] at exact; cases exact
    | infinity sign => rw [shape] at exact; cases exact
    | zero sign =>
      rw [shape] at exact
      cases exact
      cases sign with
      | negative => cases positive
      | positive =>
        rw [Binary.amount, Nat.zero_mul]
        exact .zero
    | finite sign mantissa exponent some =>
      have form := (unpack_canonical shape).1
      rw [shape] at exact
      cases exact
      cases sign with
      | negative => cases positive
      | positive => exact .finite form

-- The least units that the number of a float is, apart from its sign; none when it is not finite.
def units (x : Float) : Nat := ((binary? x).map Binary.amount).getD 0

theorem IsAmount.units {x : Float} {amount : Nat} (worth : IsAmount x amount) :
    Decimal.units x = amount := by
  obtain ⟨b, exact, _, same⟩ := isAmount_iff.mp worth
  rw [Decimal.units, exact, Option.map_some, Option.getD_some, same]

theorem binary?_neg {x : Float} {b : Binary} (exact : binary? x = some b) :
    binary? (-x) = some { b with negative := !b.negative } := by
  rw [binary?_eq] at exact ⊢
  show dyadic? (Float.Model.pack x.toModel.unpack.neg).unpack = _
  cases shape : x.toModel.unpack with
  | notANumber => rw [shape] at exact; cases exact
  | infinity sign => rw [shape] at exact; cases exact
  | zero sign =>
    rw [shape] at exact
    cases exact
    rw [UnpackedFloat.neg, unpack_pack_zero]
    cases sign <;> rfl
  | finite sign mantissa exponent positive =>
    obtain ⟨form, most⟩ := unpack_canonical shape
    rw [shape] at exact
    cases exact
    rw [UnpackedFloat.neg, unpack_pack_finite _ form most]
    cases sign <;> rfl

-- An amount has one form.
theorem Binary.Formed.unique {b c : Binary} (formed : b.Formed) (formed' : c.Formed)
    (same : b.amount = c.amount) : b.mantissa = c.mantissa ∧ b.exponent = c.exponent := by
  have exponents : b.exponent = c.exponent := by
    have first := exponent_le_of_ordered formed.full formed'.least formed'.bounded same.le
    have second := exponent_le_of_ordered formed'.full formed.least formed.bounded same.ge
    omega
  refine ⟨?_, exponents⟩
  unfold Binary.amount at same
  rw [exponents] at same
  exact Nat.eq_of_mul_eq_mul_right (Nat.two_pow_pos _) same

-- A finite float is made up of its sign and its amount.
theorem eq_of_amount {x y : Float} {b : Binary} (exact : binary? x = some b)
    (worth : IsAmount y b.amount) : x = if b.negative then -y else y := by
  obtain ⟨c, exact', positive, same⟩ := isAmount_iff.mp worth
  obtain ⟨mantissa, exponent⟩ :=
    (binary?_formed exact').unique (binary?_formed exact) same
  obtain ⟨negative, _, _⟩ := b
  obtain ⟨_, _, _⟩ := c
  cases mantissa
  cases exponent
  cases positive
  cases negative with
  | false => exact binary?_injective exact exact'
  | true => exact binary?_injective exact (binary?_neg exact')

end Chronomata.Decimal
