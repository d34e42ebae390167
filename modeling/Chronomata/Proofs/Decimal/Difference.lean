import Chronomata.Proofs.Decimal.Comparison

-- Differences of amounts, and their order. A difference has a sign; without it, it is the distance of the
-- two amounts, rounded once.
namespace Chronomata.Decimal

open Float.Model Float.Model.UnpackedFloat

def distance (a b : Nat) : Nat := ((a : Int) - b).natAbs

theorem distance_scaled (a b scale : Nat) :
    distance (a * scale) (b * scale) = distance a b * scale := by
  unfold distance
  rw [Nat.cast_mul, Nat.cast_mul, ← Int.sub_mul, Int.natAbs_mul, Int.natAbs_natCast]

theorem normalize_stands (amount : Int) (exponent : Int) {up : Nat} (units : exponent + 1074 = up) :
    ∃ sign, Stands sign (UnpackedFloat.normalize Format.binary64 amount exponent .positive)
      (nearest (amount.natAbs * 2 ^ up) 1) := by
  unfold UnpackedFloat.normalize
  cases order : compare amount 0 with
  | lt =>
    have below := Int.compare_eq_lt.mp order
    have same : (-amount).toNat = amount.natAbs := by omega
    exact ⟨.negative, same ▸ round_stands .negative _ up exponent (by omega) units⟩
  | eq =>
    have none := Int.compare_eq_eq.mp order
    rw [none, Int.natAbs_zero, Nat.zero_mul, nearest_zero]
    exact ⟨.positive, .zero⟩
  | gt =>
    have above := Int.compare_eq_gt.mp order
    have same : amount.toNat = amount.natAbs := by omega
    exact ⟨.positive, same ▸ round_stands .positive _ up exponent (by omega) units⟩

theorem sub_stands {f g : UnpackedFloat} {a b : Nat} (left : Stands .positive f a)
    (right : Stands .positive g b) :
    ∃ sign, Stands sign (UnpackedFloat.sub Format.binary64 f g) (nearest (distance a b) 1) := by
  cases left with
  | zero =>
    cases right with
    | zero => exact ⟨.positive, (nearest_zero 1).symm ▸ .zero⟩
    | @finite mantissa exponent form =>
      have same : distance 0 (mantissa * 2 ^ (exponent + 1074).toNat) =
          mantissa * 2 ^ (exponent + 1074).toNat := by
        unfold distance
        omega
      rw [same, nearest_exact form.bounded]
      exact ⟨.negative, .finite form⟩
  | @finite mantissa exponent form =>
    cases right with
    | zero =>
      have same : distance (mantissa * 2 ^ (exponent + 1074).toNat) 0 =
          mantissa * 2 ^ (exponent + 1074).toNat := by
        unfold distance
        omega
      rw [same, nearest_exact form.bounded]
      exact ⟨.positive, .finite form⟩
    | @finite mantissa' exponent' form' =>
      have lowest : -1074 ≤ min exponent exponent' := le_min form.least form'.least
      have unshift : ∀ {m : Nat} {e : Int}, min exponent exponent' ≤ e →
          m * 2 ^ (e - min exponent exponent').toNat * 2 ^ (min exponent exponent' + 1074).toNat =
            m * 2 ^ (e + 1074).toNat :=
        fun above => mul_two_pow_eq _ (by omega)
      have units : min exponent exponent' + 1074 = (min exponent exponent' + 1074).toNat := by omega
      obtain ⟨sign, stands⟩ := normalize_stands
        ((mantissa * 2 ^ (exponent - min exponent exponent').toNat : Nat) -
          (mantissa' * 2 ^ (exponent' - min exponent exponent').toNat : Nat) : Int)
        (min exponent exponent') units
      rw [← distance, ← distance_scaled, unshift (min_le_left _ _), unshift (min_le_right _ _)] at stands
      refine ⟨sign, ?_⟩
      simp only [UnpackedFloat.sub, decreaseExponent, Nat.shiftLeft_eq, Sign.apply]
      exact stands

theorem unpack_pack_stands {sign : Sign} {f : UnpackedFloat} {amount : Nat}
    (stands : Stands sign f amount) (fits : amount < limit) : (Float.Model.pack f).unpack = f := by
  cases stands with
  | zero => exact unpack_pack_zero sign
  | @finite mantissa exponent form =>
    refine unpack_pack_finite sign form ?_
    by_contra large
    have full : 2 ^ 52 ≤ mantissa := form.full.resolve_right (by omega)
    refine absurd fits (Nat.not_lt.mpr ?_)
    calc limit ≤ 2 ^ (52 + (exponent + 1074).toNat) := limit_le_two_pow.mpr (by omega)
      _ = 2 ^ 52 * 2 ^ (exponent + 1074).toNat := Nat.pow_add _ _ _
      _ ≤ mantissa * 2 ^ (exponent + 1074).toNat := Nat.mul_le_mul_right _ full

theorem abs_stands {sign : Sign} {f : UnpackedFloat} {amount : Nat} (stands : Stands sign f amount) :
    Stands .positive (UnpackedFloat.abs f) amount := by
  cases stands with
  | zero => exact .zero
  | finite form => exact .finite form

theorem abs_sub_worth {x y : Float} {a b : Nat} (left : IsAmount x a) (right : IsAmount y b)
    (fits : nearest (distance a b) 1 < limit) :
    IsAmount (x - y).abs (nearest (distance a b) 1) := by
  obtain ⟨sign, stands⟩ := sub_stands left right
  have unsigned := abs_stands stands
  unfold IsAmount
  show Stands .positive (Float.Model.pack (UnpackedFloat.abs (Float.Model.pack
    (UnpackedFloat.sub Format.binary64 x.toModel.unpack y.toModel.unpack)).unpack)).unpack _
  rw [unpack_pack_stands stands fits, unpack_pack_stands unsigned fits]
  exact unsigned

theorem le_iff {x y : Float} :
    x ≤ y ↔ (x.toModel.unpack.compare y.toModel.unpack).any (·.isLE) = true := by
  show decide (x.toModel ≤ y.toModel) = true ↔ _
  rw [decide_eq_true_iff]
  rfl

-- Amounts that are not negative compare as what they are worth.
theorem Stands.compare_eq {f g : UnpackedFloat} {a b : Nat} (left : Stands .positive f a)
    (right : Stands .positive g b) : f.compare g = some (compare a b) := by
  cases left with
  | zero =>
    rw [right.zero_compare]
    by_cases nothing : b = 0
    · rw [if_pos nothing, nothing, Nat.compare_eq_eq.mpr rfl]
    · rw [if_neg nothing, Nat.compare_eq_lt.mpr (Nat.pos_of_ne_zero nothing)]
  | @finite mantissa exponent form =>
    have some := Nat.mul_pos form.positive (Nat.two_pow_pos (exponent + 1074).toNat)
    cases right with
    | zero =>
      rw [Nat.compare_eq_gt.mpr some]
      rfl
    | @finite mantissa' exponent' form' =>
      have upward := exponent_le_of_ordered form.full form'.least form'.bounded
      have downward := exponent_le_of_ordered form'.full form.least form.bounded
      show Option.some ((compare exponent exponent').then (compare mantissa mantissa')) = _
      congr 1
      rcases lt_trichotomy exponent exponent' with less | rfl | more
      · have before : ¬ _ := fun ordered => absurd (downward ordered) (not_le.mpr less)
        rw [Int.compare_eq_lt.mpr less, Nat.compare_eq_lt.mpr (Nat.not_le.mp before)]
        rfl
      · rw [Int.compare_eq_eq.mpr rfl]
        simp only [Nat.compare_eq_ite_lt, Nat.mul_lt_mul_right (Nat.two_pow_pos _)]
        rfl
      · have after : ¬ _ := fun ordered => absurd (upward ordered) (not_le.mpr more)
        rw [Int.compare_eq_gt.mpr more, Nat.compare_eq_gt.mpr (Nat.not_le.mp after)]
        rfl

theorem IsAmount.le_iff {x y : Float} {a b : Nat} (left : IsAmount x a) (right : IsAmount y b) :
    x ≤ y ↔ a ≤ b := by
  rw [Decimal.le_iff, Stands.compare_eq left right]
  exact Nat.isLE_compare

theorem IsAmount.lt_iff {x y : Float} {a b : Nat} (left : IsAmount x a) (right : IsAmount y b) :
    x < y ↔ a < b := by
  rw [Decimal.lt_iff, Stands.compare_eq left right, Option.some.injEq]
  exact Nat.compare_eq_lt

theorem IsAmount.beq_iff {x y : Float} {a b : Nat} (left : IsAmount x a) (right : IsAmount y b) :
    x == y ↔ a = b := by
  rw [Decimal.beq_iff, Stands.compare_eq left right, Option.some.injEq]
  exact Nat.compare_eq_eq

end Chronomata.Decimal
