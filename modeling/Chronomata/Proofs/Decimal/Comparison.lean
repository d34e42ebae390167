import Chronomata.Proofs.Decimal.Amount

-- Comparisons with zero. A float that is finite and above zero is worth a positive amount, and a float
-- that is worth an amount or infinite is never below zero.
namespace Chronomata.Decimal

open Float.Model Float.Model.UnpackedFloat

theorem lt_iff {x y : Float} :
    x < y ↔ x.toModel.unpack.compare y.toModel.unpack = some .lt := by
  show decide (x.toModel < y.toModel) = true ↔ _
  rw [decide_eq_true_iff]
  show (UnpackedFloat.compare _ _ == some .lt) = true ↔ _
  exact beq_iff_eq

theorem beq_iff {x y : Float} :
    x == y ↔ x.toModel.unpack.compare y.toModel.unpack = some .eq := by
  show (UnpackedFloat.compare _ _ == some .eq) = true ↔ _
  exact beq_iff_eq

theorem zero_unpack : (0 : Float).toModel.unpack = .zero .positive := by
  have packed : (0 : Float) = .ofModel (Float.Model.pack (.zero .positive)) := by decide +kernel
  rw [packed]
  exact unpack_pack_zero .positive

-- The two spellings of zero are one float.
theorem zero_eq : (0.0 : Float) = 0 := by decide +kernel

theorem zero_worth : IsAmount 0 0 := by
  unfold IsAmount
  rw [zero_unpack]
  exact .zero

namespace Stands

variable {f : UnpackedFloat} {amount : Nat}

theorem compare_zero (stands : Stands .positive f amount) (sign : Sign) :
    f.compare (.zero sign) = some (if amount = 0 then .eq else .gt) := by
  cases stands with
  | zero => rfl
  | @finite mantissa exponent form =>
    have some : mantissa * 2 ^ (exponent + 1074).toNat ≠ 0 :=
      Nat.ne_of_gt (Nat.mul_pos form.positive (Nat.two_pow_pos _))
    rw [if_neg some]
    rfl

theorem zero_compare (stands : Stands .positive f amount) (sign : Sign) :
    UnpackedFloat.compare (.zero sign) f = some (if amount = 0 then .eq else .lt) := by
  cases stands with
  | zero => rfl
  | @finite mantissa exponent form =>
    have some : mantissa * 2 ^ (exponent + 1074).toNat ≠ 0 :=
      Nat.ne_of_gt (Nat.mul_pos form.positive (Nat.two_pow_pos _))
    rw [if_neg some]
    rfl

theorem isFinite (stands : Stands .positive f amount) : f.isFinite := by
  cases stands <;> rfl

theorem eq_zero (stands : Stands .positive f 0) : f = .zero .positive := by
  generalize nothing : 0 = amount at stands
  cases stands with
  | zero => rfl
  | finite form =>
    exact absurd nothing (Nat.ne_of_lt (Nat.mul_pos form.positive (Nat.two_pow_pos _)))

end Stands

namespace IsAmount

variable {x : Float} {amount : Nat}

theorem isFinite (worth : IsAmount x amount) : x.isFinite := Stands.isFinite worth

theorem zero_lt_iff (worth : IsAmount x amount) : 0 < x ↔ 0 < amount := by
  rw [lt_iff, zero_unpack, Stands.zero_compare worth]
  by_cases nothing : amount = 0
  · simp [nothing]
  · simp [nothing, Nat.pos_of_ne_zero]

theorem beq_zero_iff (worth : IsAmount x amount) : x == 0 ↔ amount = 0 := by
  rw [beq_iff, zero_unpack, Stands.compare_zero worth]
  by_cases nothing : amount = 0 <;> simp [nothing]

theorem not_beq_zero_iff (worth : IsAmount x amount) : (x == 0) = false ↔ 0 < amount := by
  rw [Bool.eq_false_iff, ne_eq, worth.beq_zero_iff, Nat.pos_iff_ne_zero]

theorem not_lt_zero (worth : IsAmount x amount) : ¬ x < 0 := by
  rw [lt_iff, zero_unpack, Stands.compare_zero worth]
  by_cases nothing : amount = 0 <;> simp [nothing]

end IsAmount

namespace IsInfinite

variable {x : Float}

theorem not_isFinite (endless : IsInfinite x) : x.isFinite = false := by
  show UnpackedFloat.isFinite x.toModel.unpack = false
  rw [show x.toModel.unpack = .infinity .positive from endless]
  rfl

theorem not_beq_zero (endless : IsInfinite x) : (x == 0) = false := by
  show (UnpackedFloat.compare x.toModel.unpack _ == some .eq) = false
  rw [show x.toModel.unpack = .infinity .positive from endless, zero_unpack]
  rfl

theorem zero_lt (endless : IsInfinite x) : 0 < x := by
  rw [lt_iff, zero_unpack, show x.toModel.unpack = .infinity .positive from endless]
  rfl

theorem not_le {y : Float} (endless : IsInfinite x) (finite : y.isFinite) : ¬ x ≤ y := by
  intro below
  change decide (x.toModel ≤ y.toModel) = true at below
  rw [decide_eq_true_iff] at below
  change (UnpackedFloat.compare x.toModel.unpack y.toModel.unpack).any (·.isLE) = true at below
  change UnpackedFloat.isFinite y.toModel.unpack = true at finite
  rw [show x.toModel.unpack = .infinity .positive from endless] at below
  generalize y.toModel.unpack = f at finite below
  cases f with
  | notANumber => cases finite
  | infinity sign => cases finite
  | zero sign => cases below
  | finite sign mantissa exponent some => cases below

end IsInfinite

theorem not_isInfinite {x : Float} (finite : x.isFinite) : ¬ IsInfinite x := by
  intro endless
  rw [endless.not_isFinite] at finite
  cases finite

-- What is worth an amount or infinite is below no float that is worth nothing.
theorem Rounded.not_lt {x y : Float} {amount : Nat} (rounded : Rounded x amount)
    (nothing : IsAmount y 0) : ¬ x < y := by
  rw [lt_iff, Stands.eq_zero nothing]
  cases rounded with
  | finite fits worth =>
    rw [Stands.compare_zero worth]
    by_cases nothing : amount = 0 <;> simp [nothing]
  | infinite large endless =>
    rw [show x.toModel.unpack = .infinity .positive from endless]
    simp [UnpackedFloat.compare]

theorem finite_positive_iff {x : Float} :
    x.isFinite ∧ 0 < x ↔ ∃ amount, 0 < amount ∧ IsAmount x amount := by
  constructor
  · rintro ⟨finite, positive⟩
    rw [lt_iff, zero_unpack] at positive
    change UnpackedFloat.isFinite x.toModel.unpack = true at finite
    cases shape : x.toModel.unpack with
    | notANumber => rw [shape] at finite; cases finite
    | infinity sign => rw [shape] at finite; cases finite
    | zero sign => rw [shape] at positive; simp [UnpackedFloat.compare] at positive
    | finite sign mantissa exponent some =>
      rw [shape] at positive
      cases sign with
      | negative => simp [UnpackedFloat.compare] at positive
      | positive =>
        have form := (unpack_canonical shape).1
        refine ⟨_, Nat.mul_pos some (Nat.two_pow_pos (exponent + 1074).toNat), ?_⟩
        unfold IsAmount
        rw [shape]
        exact .finite form
  · rintro ⟨amount, positive, worth⟩
    exact ⟨worth.isFinite, worth.zero_lt_iff.mpr positive⟩

end Chronomata.Decimal
