import Chronomata.Proofs.Decimal.Rounding

-- Floats that are not negative, as amounts of least units. Sums and quotients of amounts are rounded
-- exactly once; what does not fit becomes infinity, and nothing here is ever no number.
namespace Chronomata.Decimal

open Float.Model Float.Model.UnpackedFloat

-- A finite float that is not negative, worth an amount of least units.
def IsAmount (x : Float) (amount : Nat) : Prop := Stands .positive x.toModel.unpack amount

def IsInfinite (x : Float) : Prop := x.toModel.unpack = .infinity .positive

-- The amount that the float one is worth.
def unity : Nat := 2 ^ 1074

-- The least amount that no finite float is worth.
def limit : Nat := 2 ^ 2098

theorem limit_pos : 0 < limit := by
  unfold limit
  positivity

theorem unity_pos : 0 < unity := by
  unfold unity
  positivity

theorem two_pow_le_limit {places : Nat} : 2 ^ places ≤ limit ↔ places ≤ 2098 := by
  rw [limit, Nat.pow_le_pow_iff_right (by decide)]

theorem limit_le_two_pow {places : Nat} : limit ≤ 2 ^ places ↔ 2098 ≤ places := by
  rw [limit, Nat.pow_le_pow_iff_right (by decide)]

theorem two_pow_mul_unity (places : Nat) : 2 ^ places * unity = 2 ^ (places + 1074) := by
  rw [unity, ← Nat.pow_add]

theorem two_pow_le_unity {places : Nat} (small : places ≤ 1074) : 2 ^ places ≤ unity := by
  rw [unity, Nat.pow_le_pow_iff_right (by decide)]
  exact small

theorem unity_lt_limit : unity < limit := by
  rw [unity, limit, Nat.pow_lt_pow_iff_right (by decide)]
  decide

theorem lt_limit {mantissa places : Nat} (bounded : mantissa < 2 ^ 53) (small : places ≤ 2045) :
    mantissa * 2 ^ places < limit :=
  Nat.lt_of_lt_of_le (mul_two_pow_lt bounded rfl) (two_pow_le_limit.mpr (by omega))

theorem mul_two_pow_eq (mantissa : Nat) {first second total : Nat} (sum : first + second = total) :
    mantissa * 2 ^ first * 2 ^ second = mantissa * 2 ^ total := by
  rw [Nat.mul_assoc, ← Nat.pow_add, sum]

-- A float that is worth an amount, or infinite because the amount is too large.
inductive Rounded (x : Float) (amount : Nat) : Prop where
  | finite (fits : amount < limit) (worth : IsAmount x amount)
  | infinite (large : limit ≤ amount) (endless : IsInfinite x)

theorem pack_worth {mantissa : Nat} {exponent : Int} (form : Canonical mantissa exponent)
    (small : exponent ≤ 971) :
    IsAmount (.ofModel (Float.Model.pack (.finite .positive mantissa exponent form.positive)))
      (mantissa * 2 ^ (exponent + 1074).toNat) := by
  show Stands .positive (Float.Model.pack _).unpack _
  rw [unpack_pack_finite .positive form small]
  exact .finite form

-- A float that is a power of two.
theorem pack_two_pow_worth {exponent : Int} {places : Nat} (least : -1074 ≤ exponent)
    (small : exponent ≤ 971) (units : exponent + 1126 = places) :
    IsAmount (.ofModel (Float.Model.pack (.finite .positive (2 ^ 52) exponent (by decide))))
      (2 ^ places) := by
  have sum : 52 + (exponent + 1074).toNat = places := by omega
  rw [← sum, Nat.pow_add]
  exact pack_worth ⟨by decide, by decide, least, .inl (by decide)⟩ small

theorem pack_rounded {f : UnpackedFloat} {amount : Nat} (stands : Stands .positive f amount) :
    Rounded (.ofModel (Float.Model.pack f)) amount := by
  cases stands with
  | zero =>
    refine .finite limit_pos ?_
    show Stands .positive (Float.Model.pack _).unpack 0
    rw [unpack_pack_zero]
    exact .zero
  | @finite mantissa exponent form =>
    by_cases inRange : exponent ≤ 971
    · exact .finite (lt_limit form.bounded (by omega)) (pack_worth form inRange)
    · have full : 2 ^ 52 ≤ mantissa := form.full.resolve_right (by omega)
      have reached : limit ≤ mantissa * 2 ^ (exponent + 1074).toNat := by
        calc limit ≤ 2 ^ (52 + (exponent + 1074).toNat) := limit_le_two_pow.mpr (by omega)
          _ = 2 ^ 52 * 2 ^ (exponent + 1074).toNat := Nat.pow_add _ _ _
          _ ≤ mantissa * 2 ^ (exponent + 1074).toNat := Nat.mul_le_mul_right _ full
      exact .infinite reached (unpack_pack_overflow .positive form.positive (by omega))

theorem round_stands (sign : Sign) (mantissa up : Nat) (exponent : Int) (positive : 0 < mantissa)
    (units : exponent + 1074 = up) :
    Stands sign (round Format.binary64 sign mantissa exponent)
      (nearest (mantissa * 2 ^ up) 1) := by
  unfold Float.Model.UnpackedFloat.round decreaseExponent
  rw [targetExponent_eq]
  generalize target : max ((mantissa.log2 : Int) + 1 + exponent - 53) (-1074) = wanted
  obtain ⟨places, shift⟩ : ∃ places : Nat, places = (exponent - wanted).toNat := ⟨_, rfl⟩
  have fits : places ≤ up := by omega
  have whole : mantissa / 1 ≠ 0 := by
    rw [Nat.div_one]
    exact Nat.ne_of_gt positive
  have digits := log2_scaled_quotient whole places
  rw [Nat.div_one, Nat.div_one] at digits
  have stands := roundWithAccuracy_stands sign (mantissa * 2 ^ places) 1 (up - places) 0
    (exponent - places) Nat.one_pos (by omega) (by rw [Nat.div_one, digits]; omega)
  have unscaled : mantissa * 2 ^ places * 2 ^ (up - places) = mantissa * 2 ^ up :=
    mul_two_pow_eq _ (Nat.add_sub_cancel' fits)
  rw [unscaled, Nat.pow_zero, Nat.mul_one, Nat.div_one, Nat.mod_one] at stands
  simp only [← shift, Nat.shiftLeft_eq]
  exact stands

theorem add_stands {f g : UnpackedFloat} {a b : Nat} (left : Stands .positive f a)
    (right : Stands .positive g b) :
    Stands .positive (UnpackedFloat.add Format.binary64 f g) (nearest (a + b) 1) := by
  cases left with
  | zero =>
    cases right with
    | zero =>
      rw [nearest_zero]
      exact .zero
    | finite form =>
      rw [Nat.zero_add, nearest_exact form.bounded]
      exact .finite form
  | @finite mantissa exponent form =>
    cases right with
    | zero =>
      rw [Nat.add_zero, nearest_exact form.bounded]
      exact .finite form
    | @finite mantissa' exponent' form' =>
      have lowest : -1074 ≤ min exponent exponent' := le_min form.least form'.least
      have unshift : ∀ {m : Nat} {e : Int}, min exponent exponent' ≤ e →
          m * 2 ^ (e - min exponent exponent').toNat * 2 ^ (min exponent exponent' + 1074).toNat =
            m * 2 ^ (e + 1074).toNat :=
        fun above => mul_two_pow_eq _ (by omega)
      have some : 0 < mantissa * 2 ^ (exponent - min exponent exponent').toNat :=
        Nat.mul_pos form.positive (Nat.two_pow_pos _)
      have stands := round_stands .positive
        (mantissa * 2 ^ (exponent - min exponent exponent').toNat +
          mantissa' * 2 ^ (exponent' - min exponent exponent').toNat)
        (min exponent exponent' + 1074).toNat (min exponent exponent') (by omega) (by omega)
      rw [Nat.add_mul, unshift (min_le_left _ _), unshift (min_le_right _ _)] at stands
      simp only [UnpackedFloat.add, decreaseExponent, Nat.shiftLeft_eq, Sign.apply,
        UnpackedFloat.normalize, ← Nat.cast_add, Int.toNat_natCast]
      rw [Int.compare_eq_gt.mpr (by omega)]
      exact stands

theorem add_rounded {x y : Float} {a b : Nat} (left : IsAmount x a) (right : IsAmount y b) :
    Rounded (x + y) (nearest (a + b) 1) :=
  pack_rounded (add_stands left right)

theorem add_infinite {x y : Float} {b : Nat} (left : IsInfinite x) (right : IsAmount y b) :
    IsInfinite (x + y) := by
  show (Float.Model.pack (UnpackedFloat.add Format.binary64 x.toModel.unpack y.toModel.unpack)).unpack
    = _
  unfold IsAmount at right
  rw [show x.toModel.unpack = .infinity .positive from left]
  cases shape : y.toModel.unpack <;> rw [shape] at right <;> cases right <;>
    exact unpack_pack_infinity .positive

theorem sub_infinite {x y : Float} (left : IsInfinite x) (right : y.isFinite) :
    IsInfinite (x - y) := by
  show (Float.Model.pack (UnpackedFloat.sub Format.binary64 x.toModel.unpack y.toModel.unpack)).unpack
    = _
  change UnpackedFloat.isFinite y.toModel.unpack = true at right
  rw [show x.toModel.unpack = .infinity .positive from left]
  generalize y.toModel.unpack = f at right
  cases f with
  | notANumber => cases right
  | infinity sign => cases right
  | zero sign => exact unpack_pack_infinity .positive
  | finite sign mantissa exponent some => exact unpack_pack_infinity .positive

theorem abs_infinite {x : Float} (endless : IsInfinite x) : IsInfinite x.abs := by
  show (Float.Model.pack (UnpackedFloat.abs x.toModel.unpack)).unpack = _
  rw [show x.toModel.unpack = .infinity .positive from endless]
  exact unpack_pack_infinity .positive

-- Factors of any size may be multiplied, as long as their product shows enough digits.
theorem product_stands {mantissa mantissa' : Nat} {exponent exponent' : Int} (positive : 0 < mantissa)
    (positive' : 0 < mantissa') (least : -1074 ≤ exponent) (least' : -1074 ≤ exponent')
    (enough : exponent + exponent' ≤
      max ((mantissa * mantissa').log2 + 1 + (exponent + exponent') - 53 : Int) (-1074)) :
    Stands .positive (UnpackedFloat.mul Format.binary64 (.finite .positive mantissa exponent positive)
        (.finite .positive mantissa' exponent' positive'))
      (nearest (mantissa * 2 ^ (exponent + 1074).toNat * (mantissa' * 2 ^ (exponent' + 1074).toNat))
        unity) := by
  have stands := roundWithAccuracy_stands .positive (mantissa * mantissa') 1
    (exponent + exponent' + 2148).toNat 1074 (exponent + exponent') Nat.one_pos (by omega)
    (by rwa [Nat.div_one])
  have powers : mantissa * mantissa' * 2 ^ (exponent + exponent' + 2148).toNat =
      mantissa * 2 ^ (exponent + 1074).toNat * (mantissa' * 2 ^ (exponent' + 1074).toNat) := by
    rw [Nat.mul_mul_mul_comm, ← Nat.pow_add]
    congr 2
    omega
  rw [powers, Nat.one_mul, Nat.div_one, Nat.mod_one] at stands
  exact stands

theorem mul_stands {f g : UnpackedFloat} {a b : Nat} (left : Stands .positive f a)
    (right : Stands .positive g b) :
    Stands .positive (UnpackedFloat.mul Format.binary64 f g) (nearest (a * b) unity) := by
  cases left with
  | zero =>
    rw [Nat.zero_mul, nearest_zero]
    cases right <;> exact .zero
  | @finite mantissa exponent form =>
    cases right with
    | zero =>
      rw [Nat.mul_zero, nearest_zero]
      exact .zero
    | @finite mantissa' exponent' form' =>
      refine product_stands form.positive form'.positive form.least form'.least ?_
      -- Two subnormal factors make a product far below the least unit; any other has 53 digits.
      by_cases lowest : exponent = -1074 ∧ exponent' = -1074
      · omega
      · have many : 2 ^ 52 ≤ mantissa * mantissa' := by
          rcases Decidable.not_and_iff_or_not.mp lowest with above | above
          · exact Nat.le_trans (form.full.resolve_right above)
              (Nat.le_mul_of_pos_right _ form'.positive)
          · exact Nat.le_trans (form'.full.resolve_right above)
              (Nat.le_mul_of_pos_left _ form.positive)
        have digits := (Nat.le_log2 (Nat.ne_of_gt (Nat.lt_of_lt_of_le (by decide) many))).mpr many
        omega

theorem mul_rounded {x y : Float} {a b : Nat} (left : IsAmount x a) (right : IsAmount y b) :
    Rounded (x * y) (nearest (a * b) unity) :=
  pack_rounded (mul_stands left right)

theorem toFloat_rounded (n : UInt64) : Rounded n.toFloat (nearest (n.toNat * unity) 1) := by
  refine pack_rounded (f := UnpackedFloat.ofNat Format.binary64 n.toNat) ?_
  simp only [UnpackedFloat.ofNat, UnpackedFloat.ofInt, UnpackedFloat.normalize]
  cases some : n.toNat with
  | zero =>
    rw [Nat.zero_mul, nearest_zero]
    exact .zero
  | succ before =>
    rw [Int.compare_eq_gt.mpr (by omega)]
    exact round_stands .positive (before + 1) 1074 0 (Nat.succ_pos _) rfl

-- Operands of any size may be divided; they need not have the form of a float.
theorem quotient_stands {mantissa divisor : Nat} {exponent lower : Int} (positive : 0 < mantissa)
    (positive' : 0 < divisor) (least : -1074 ≤ exponent) (least' : -1074 ≤ lower) :
    Stands .positive (UnpackedFloat.div Format.binary64 (.finite .positive mantissa exponent positive)
        (.finite .positive divisor lower positive'))
      (nearest (mantissa * 2 ^ (exponent + 1074).toNat * unity)
        (divisor * 2 ^ (lower + 1074).toNat)) := by
  have nonzero : mantissa ≠ 0 := Nat.ne_of_gt positive
  have nonzero' : divisor ≠ 0 := Nat.ne_of_gt positive'
  -- The exponent of the quotient is small enough for 53 digits or for the least unit.
  obtain ⟨wanted, target⟩ : ∃ wanted : Int, wanted = min (exponent - lower)
      (Format.binary64.targetExponent
        (totalExponent mantissa exponent - totalExponent divisor lower)) := ⟨_, rfl⟩
  obtain ⟨places, shift⟩ : ∃ places : Nat, places = (exponent - lower - wanted).toNat := ⟨_, rfl⟩
  have floor : min (exponent - lower) (-1074) ≤ wanted := by
    rw [target]
    exact min_le_min_left _ (le_max_right _ _)
  have bound : wanted ≤ max ((mantissa.log2 : Int) + 1 + exponent - (divisor.log2 + 1 + lower) - 53)
      (-1074) := by
    rw [target]
    exact min_le_right _ _
  have below : wanted ≤ exponent - lower := by
    rw [target]
    exact min_le_left _ _
  have enough : wanted ≤
      max ((mantissa * 2 ^ places / divisor).log2 + 1 + wanted - 53 : Int) (-1074) := by
    by_cases lowest : wanted ≤ -1074
    · omega
    · have room : divisor.log2 + 53 ≤ mantissa.log2 + places := by omega
      have many : 2 ^ 52 ≤ mantissa * 2 ^ places / divisor := by
        rw [Nat.le_div_iff_mul_le positive']
        calc 2 ^ 52 * divisor ≤ 2 ^ 52 * 2 ^ (divisor.log2 + 1) :=
              Nat.mul_le_mul_left _ (Nat.le_of_lt Nat.lt_log2_self)
          _ = 2 ^ (divisor.log2 + 53) := by rw [← Nat.pow_add]; congr 1; omega
          _ ≤ 2 ^ (mantissa.log2 + places) := Nat.pow_le_pow_right (by decide) room
          _ = 2 ^ mantissa.log2 * 2 ^ places := Nat.pow_add _ _ _
          _ ≤ mantissa * 2 ^ places := Nat.mul_le_mul_right _ (Nat.log2_self_le nonzero)
      have digits := (Nat.le_log2 (Nat.ne_of_gt (Nat.lt_of_lt_of_le (by decide) many))).mpr many
      omega
  have stands := roundWithAccuracy_stands .positive (mantissa * 2 ^ places) divisor
    (lower + wanted + 2148).toNat (lower + 1074).toNat wanted positive' (by omega) enough
  have powers : mantissa * 2 ^ places * 2 ^ (lower + wanted + 2148).toNat =
      mantissa * unity * 2 ^ (exponent + 1074).toNat := by
    rw [mul_two_pow_eq _ rfl]
    unfold unity
    rw [mul_two_pow_eq _ rfl]
    congr 2
    omega
  rw [powers, Nat.mul_right_comm] at stands
  simp only [UnpackedFloat.div, divCore, ← target, ← shift, Nat.shiftLeft_eq]
  exact stands

theorem div_stands {f g : UnpackedFloat} {a b : Nat} (left : Stands .positive f a)
    (right : Stands .positive g b) (some : 0 < b) :
    Stands .positive (UnpackedFloat.div Format.binary64 f g) (nearest (a * unity) b) := by
  cases right with
  | zero => exact absurd some (Nat.lt_irrefl 0)
  | finite form' =>
    cases left with
    | zero =>
      rw [Nat.zero_mul, nearest_zero]
      exact .zero
    | finite form => exact quotient_stands form.positive form'.positive form.least form'.least

theorem div_rounded {x y : Float} {a b : Nat} (left : IsAmount x a) (right : IsAmount y b)
    (some : 0 < b) : Rounded (x / y) (nearest (a * unity) b) :=
  pack_rounded (div_stands left right some)

-- A finite amount divided by infinity vanishes.
theorem div_infinite {x y : Float} {a : Nat} (left : IsAmount x a) (right : IsInfinite y) :
    IsAmount (x / y) 0 := by
  show Stands .positive (Float.Model.pack
    (UnpackedFloat.div Format.binary64 x.toModel.unpack y.toModel.unpack)).unpack 0
  unfold IsAmount at left
  rw [show y.toModel.unpack = .infinity .positive from right]
  cases shape : x.toModel.unpack <;> rw [shape] at left <;> cases left <;>
    exact (unpack_pack_zero .positive).symm ▸ .zero

end Chronomata.Decimal
