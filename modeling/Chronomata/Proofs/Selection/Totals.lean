import Chronomata.Proofs.Decimal.Difference
import Chronomata.Proofs.Decimal.Error
import Chronomata.Selection

-- Totals of valid weights. Every addition is rounded, so a total is off by one part in 2^53 at most for each
-- weight; and one that is finite is at most 2^55 times one of the weights, however many there are.
namespace Chronomata.Weights

open Decimal Float.Model Float.Model.UnpackedFloat

-- What a valid weight is worth. Nothing may have a negative sign.
inductive Weighs (x : Float) : Nat → Prop where
  | amount {a : Nat} (worth : IsAmount x a) : Weighs x a
  | nothing (negative : x.toModel.unpack = .zero .negative) : Weighs x 0

theorem isValid_iff {x : Float} : isValid x = true ↔ ∃ a, Weighs x a := by
  have finite : x.isFinite = UnpackedFloat.isFinite x.toModel.unpack := rfl
  have below : x < 0 ↔ x.toModel.unpack.compare (.zero .positive) = some .lt := by
    rw [lt_iff, zero_unpack]
  simp only [isValid, Bool.and_eq_true, Bool.not_eq_true', decide_eq_false_iff_not]
  constructor
  · rintro ⟨bounded, above⟩
    rw [finite] at bounded
    rw [below] at above
    cases shape : x.toModel.unpack with
    | notANumber => rw [shape] at bounded; cases bounded
    | infinity sign => rw [shape] at bounded; cases bounded
    | zero sign =>
      cases sign with
      | negative => exact ⟨0, .nothing shape⟩
      | positive => exact ⟨0, .amount (by rw [IsAmount, shape]; exact .zero)⟩
    | finite sign mantissa exponent some =>
      rw [shape] at above
      cases sign with
      | negative => exact absurd rfl above
      | positive =>
        have form := (unpack_canonical shape).1
        exact ⟨_, .amount (by rw [IsAmount, shape]; exact .finite form)⟩
  · rintro ⟨a, worth | negative⟩
    · exact ⟨worth.isFinite, worth.not_lt_zero⟩
    · rw [finite, below, negative]
      exact ⟨rfl, by decide⟩

theorem stands_unique {f : UnpackedFloat} {a b : Nat} (left : Stands .positive f a)
    (right : Stands .positive f b) : a = b := by
  cases left <;> cases right <;> rfl

theorem Weighs.unique {x : Float} {a b : Nat} (weighs : Weighs x a) (weighs' : Weighs x b) :
    a = b := by
  cases weighs with
  | amount worth =>
    cases weighs' with
    | amount worth' => exact stands_unique worth worth'
    | nothing negative =>
      rw [IsAmount, negative] at worth
      cases worth
  | nothing negative =>
    cases weighs' with
    | amount worth' =>
      rw [IsAmount, negative] at worth'
      cases worth'
    | nothing _ => rfl

-- Valid weights compare as what they are worth, and nothing as zero whatever its sign.
theorem Weighs.compare_eq {x y : Float} {a b : Nat} (weighs : Weighs x a) (weighs' : Weighs y b) :
    x.toModel.unpack.compare y.toModel.unpack = some (compare a b) := by
  cases weighs with
  | amount worth =>
    cases weighs' with
    | amount worth' => exact Stands.compare_eq worth worth'
    | nothing negative' =>
      rw [negative', Stands.compare_zero worth]
      by_cases nothing : a = 0
      · rw [if_pos nothing, nothing, Nat.compare_eq_eq.mpr rfl]
      · rw [if_neg nothing, Nat.compare_eq_gt.mpr (Nat.pos_of_ne_zero nothing)]
  | nothing negative =>
    cases weighs' with
    | amount worth' =>
      rw [negative, Stands.zero_compare worth']
      by_cases nothing : b = 0
      · rw [if_pos nothing, nothing, Nat.compare_eq_eq.mpr rfl]
      · rw [if_neg nothing, Nat.compare_eq_lt.mpr (Nat.pos_of_ne_zero nothing)]
    | nothing negative' =>
      rw [negative, negative']
      rfl

theorem Weighs.lt_iff {x y : Float} {a b : Nat} (weighs : Weighs x a) (weighs' : Weighs y b) :
    x < y ↔ a < b := by
  rw [Decimal.lt_iff, weighs.compare_eq weighs', Option.some.injEq]
  exact Nat.compare_eq_lt

theorem Weighs.le_iff {x y : Float} {a b : Nat} (weighs : Weighs x a) (weighs' : Weighs y b) :
    x ≤ y ↔ a ≤ b := by
  rw [Decimal.le_iff, weighs.compare_eq weighs']
  exact Nat.isLE_compare

theorem Weighs.beq_iff {x y : Float} {a b : Nat} (weighs : Weighs x a) (weighs' : Weighs y b) :
    x == y ↔ a = b := by
  rw [Decimal.beq_iff, weighs.compare_eq weighs', Option.some.injEq]
  exact Nat.compare_eq_eq

-- What a float is worth needs no rounding.
theorem nearest_worth {x : Float} {a : Nat} (worth : IsAmount x a) : nearest a 1 = a := by
  unfold IsAmount at worth
  generalize x.toModel.unpack = f at worth
  cases worth with
  | zero => exact nearest_zero 1
  | finite form => exact nearest_exact form.bounded _

theorem worth_lt_limit {x : Float} {a : Nat} (worth : IsAmount x a) : a < limit := by
  unfold IsAmount at worth
  cases shape : x.toModel.unpack with
  | notANumber => rw [shape] at worth; cases worth
  | infinity sign => rw [shape] at worth; cases worth
  | zero sign =>
    rw [shape] at worth
    cases worth
    exact limit_pos
  | finite sign mantissa exponent some =>
    have small := (unpack_canonical shape).2
    rw [shape] at worth
    cases worth with
    | finite form => exact lt_limit form.bounded (by omega)

theorem Weighs.add {sum x : Float} {n a : Nat} (worth : IsAmount sum n) (weighs : Weighs x a) :
    Rounded (sum + x) (nearest (n + a) 1) := by
  cases weighs with
  | amount weighs => exact add_rounded worth weighs
  | nothing negative =>
    have same : UnpackedFloat.add Format.binary64 sum.toModel.unpack (.zero .negative) =
        sum.toModel.unpack := by
      unfold IsAmount at worth
      generalize sum.toModel.unpack = f at worth
      cases worth <;> rfl
    rw [Nat.add_zero, nearest_worth worth]
    show Rounded (.ofModel (Float.Model.pack
      (UnpackedFloat.add Format.binary64 sum.toModel.unpack x.toModel.unpack))) n
    rw [negative, same]
    exact pack_rounded worth

-- Adding nothing to a sum leaves it as it is.
theorem Weighs.add_nothing {sum x : Float} {n : Nat} (worth : IsAmount sum n) (weighs : Weighs x 0) :
    IsAmount (sum + x) n := by
  have added := weighs.add worth
  rw [Nat.add_zero, nearest_worth worth] at added
  cases added with
  | finite _ same => exact same
  | infinite large _ => exact absurd (worth_lt_limit worth) (Nat.not_lt.mpr large)

theorem Weighs.add_infinite {sum x : Float} {a : Nat} (endless : IsInfinite sum)
    (weighs : Weighs x a) : IsInfinite (sum + x) := by
  cases weighs with
  | amount weighs => exact Decimal.add_infinite endless weighs
  | nothing negative =>
    show (Float.Model.pack
      (UnpackedFloat.add Format.binary64 sum.toModel.unpack x.toModel.unpack)).unpack = _
    rw [show sum.toModel.unpack = .infinity .positive from endless, negative]
    exact unpack_pack_infinity .positive

theorem nearest_unity : nearest unity 1 = unity := by
  have exact := nearest_exact (show 1 < 2 ^ 53 by decide) 1074
  rwa [Nat.one_mul, ← unity] at exact

theorem nearest_self {amount : Nat} (some : 0 < amount) :
    nearest (amount * unity) amount = unity := by
  have scaled := nearest_scaled unity 1 some
  rwa [Nat.one_mul, Nat.mul_comm, nearest_unity] at scaled

-- A part of the whole is one at most.
theorem nearest_part_le {a b : Nat} (some : 0 < b) (within : a ≤ b) :
    nearest (a * unity) b ≤ unity := by
  have scaled : nearest (a * unity) b ≤ nearest (b * unity) b :=
    nearest_mono (Nat.mul_le_mul_right _ within) b
  rwa [nearest_self some] at scaled

theorem Weighs.div {x y : Float} {a b : Nat} (weighs : Weighs x a) (worth : IsAmount y b)
    (some : 0 < b) (within : a ≤ b) : Weighs (x / y) (nearest (a * unity) b) := by
  cases weighs with
  | amount weighs =>
    cases div_rounded weighs worth some with
    | finite _ quotient => exact .amount quotient
    | infinite large _ =>
      exact absurd (Nat.le_trans large (nearest_part_le some within)) (Nat.not_le.mpr unity_lt_limit)
  | nothing negative =>
    rw [Nat.zero_mul, nearest_zero]
    refine .nothing ?_
    show (Float.Model.pack
      (UnpackedFloat.div Format.binary64 x.toModel.unpack y.toModel.unpack)).unpack = _
    unfold IsAmount at worth
    rw [negative]
    generalize y.toModel.unpack = f at worth
    cases worth with
    | zero => exact absurd some (Nat.lt_irrefl 0)
    | finite form => exact unpack_pack_zero .negative

theorem Weighs.div_infinite {x y : Float} {a : Nat} (weighs : Weighs x a) (endless : IsInfinite y) :
    Weighs (x / y) 0 := by
  cases weighs with
  | amount weighs => exact .amount (Decimal.div_infinite weighs endless)
  | nothing negative =>
    refine .nothing ?_
    show (Float.Model.pack
      (UnpackedFloat.div Format.binary64 x.toModel.unpack y.toModel.unpack)).unpack = _
    rw [negative, show y.toModel.unpack = .infinity .positive from endless]
    exact unpack_pack_zero .negative

theorem exists_amounts {weights : List Float} (valid : ∀ w ∈ weights, isValid w = true) :
    ∃ amounts, List.Forall₂ Weighs weights amounts := by
  induction weights with
  | nil => exact ⟨[], .nil⟩
  | cons w rest ih =>
    obtain ⟨a, weighs⟩ := isValid_iff.mp (valid w List.mem_cons_self)
    obtain ⟨amounts, weigh⟩ := ih fun other member => valid other (List.mem_cons_of_mem _ member)
    exact ⟨a :: amounts, .cons weighs weigh⟩

theorem valid_of_weigh {weights : List Float} {amounts : List Nat}
    (weigh : List.Forall₂ Weighs weights amounts) : ∀ w ∈ weights, isValid w = true := by
  induction weigh with
  | nil => exact List.forall_mem_nil _
  | cons weighs _ ih => exact List.forall_mem_cons.mpr ⟨isValid_iff.mpr ⟨_, weighs⟩, ih⟩

theorem exists_weight {weights : List Float} {amounts : List Nat}
    (weigh : List.Forall₂ Weighs weights amounts) {a : Nat} (member : a ∈ amounts) :
    ∃ w ∈ weights, Weighs w a := by
  induction weigh with
  | nil => exact absurd member List.not_mem_nil
  | @cons w b rest others weighs _ ih =>
    rcases List.mem_cons.mp member with rfl | later
    · exact ⟨w, List.mem_cons_self, weighs⟩
    · obtain ⟨heavy, listed, weighs'⟩ := ih later
      exact ⟨heavy, List.mem_cons_of_mem _ listed, weighs'⟩

-- A running sum that started with one amount and added others.
structure Summed (sum : Float) (start : Nat) (amounts : List Nat) (total : Nat) : Prop where
  worth : IsAmount sum total
  start_le : start ≤ total
  le_total : ∀ a ∈ amounts, a ≤ total
  error : |(total : ℚ) - (start + amounts.sum)| ≤ amounts.length * (total / 2 ^ 53)

variable {weights : List Float} {amounts : List Nat} {sum : Float} {start : Nat}

theorem le_nearest_add (worth : IsAmount sum start) (a : Nat) : start ≤ nearest (start + a) 1 := by
  have grows := nearest_mono (Nat.le_add_right start a) 1
  rwa [nearest_worth worth] at grows

theorem Weighs.le_nearest_add {x : Float} {a : Nat} (weighs : Weighs x a) (start : Nat) :
    a ≤ nearest (start + a) 1 := by
  cases weighs with
  | amount worth =>
    have grows := nearest_mono (Nat.le_add_left a start) 1
    rwa [nearest_worth worth] at grows
  | nothing _ => exact Nat.zero_le _

-- One more addition is off by one part more of what the sum comes to.
theorem error_cons {start a total : Nat} {amounts : List Nat} (below : nearest (start + a) 1 ≤ total)
    (error : |(total : ℚ) - ((nearest (start + a) 1 : Nat) + amounts.sum)| ≤
      amounts.length * (total / 2 ^ 53)) :
    |(total : ℚ) - (start + (a :: amounts).sum)| ≤ (a :: amounts).length * (total / 2 ^ 53) := by
  have rounded := sum_error (start + a)
  have below' : (nearest (start + a) 1 : ℚ) ≤ total := by exact_mod_cast below
  rw [List.sum_cons, List.length_cons]
  push_cast at rounded error ⊢
  rw [abs_le] at rounded error ⊢
  constructor <;> linarith

theorem foldl_infinite (weigh : List.Forall₂ Weighs weights amounts) (endless : IsInfinite sum) :
    IsInfinite (weights.foldl (· + ·) sum) := by
  induction weigh generalizing sum with
  | nil => exact endless
  | cons weighs _ ih => exact ih (weighs.add_infinite endless)

theorem foldl_summed (weigh : List.Forall₂ Weighs weights amounts) (worth : IsAmount sum start) :
    IsInfinite (weights.foldl (· + ·) sum) ∨
      ∃ total, Summed (weights.foldl (· + ·) sum) start amounts total := by
  induction weigh generalizing sum start with
  | nil => exact .inr ⟨start, worth, Nat.le_refl _, by simp, by simp⟩
  | @cons w a rest amounts weighs weigh ih =>
    cases weighs.add worth with
    | infinite _ endless =>
      have lost := foldl_infinite weigh endless
      exact .inl lost
    | finite _ added =>
      rcases ih added with endless | ⟨total, summed⟩
      · exact .inl endless
      · refine .inr ⟨total, summed.worth, ?_, ?_, ?_⟩
        · exact Nat.le_trans (le_nearest_add worth a) summed.start_le
        · refine List.forall_mem_cons.mpr ⟨?_, summed.le_total⟩
          exact Nat.le_trans (weighs.le_nearest_add start) summed.start_le
        · exact error_cons summed.start_le summed.error

-- A total is infinite, or it is off by one part for each weight.
theorem total_summed (weigh : List.Forall₂ Weighs weights amounts) :
    IsInfinite (total weights) ∨ ∃ whole, Summed (total weights) 0 amounts whole := by
  unfold total
  rw [zero_eq]
  exact foldl_summed weigh zero_worth

theorem Summed.sum_error {sum : Float} {total : Nat} (summed : Summed sum 0 amounts total) :
    |(total : ℚ) - amounts.sum| ≤ amounts.length * (total / 2 ^ 53) := by
  simpa only [Nat.cast_zero, zero_add] using summed.error

theorem foldl_nothing (weigh : List.Forall₂ Weighs weights amounts) (none : ∀ a ∈ amounts, a = 0)
    (worth : IsAmount sum 0) : IsAmount (weights.foldl (· + ·) sum) 0 := by
  induction weigh generalizing sum with
  | nil => exact worth
  | @cons w a rest amounts weighs weigh ih =>
    obtain ⟨rfl, nothing⟩ := List.forall_mem_cons.mp none
    exact ih nothing (weighs.add_nothing worth)

-- A sum that has reached a power of two is left there by any weight below half a unit of its last digit.
theorem foldl_light (weigh : List.Forall₂ Weighs weights amounts) {exponent : Nat}
    (large : 53 ≤ exponent) (small : exponent < 2098)
    (light : ∀ a ∈ amounts, a < 2 ^ (exponent - 53)) (low : start ≤ 2 ^ exponent)
    (worth : IsAmount sum start) :
    ∃ total ≤ 2 ^ exponent, IsAmount (weights.foldl (· + ·) sum) total := by
  induction weigh generalizing sum start with
  | nil => exact ⟨start, low, worth⟩
  | @cons w a rest amounts weighs weigh ih =>
    obtain ⟨lighter, others⟩ := List.forall_mem_cons.mp light
    have stays : nearest (start + a) 1 ≤ 2 ^ exponent := nearest_le_two_pow large (by omega)
    cases weighs.add worth with
    | finite _ added => exact ih others stays added
    | infinite endless _ =>
      have reached := limit_le_two_pow.mp (Nat.le_trans endless stays)
      omega

-- However many weights there are, one of them is a part of the total that 55 digits can show.
theorem exists_heavy (weigh : List.Forall₂ Weighs weights amounts) {amount : Nat}
    (worth : IsAmount (total weights) amount) (some : 0 < amount) :
    ∃ a ∈ amounts, amount ≤ a * 2 ^ 55 := by
  by_contra none
  have light : ∀ a ∈ amounts, a * 2 ^ 55 < amount := by
    intro a member
    exact Nat.not_le.mp fun heavy => none ⟨a, member, heavy⟩
  have lower := Nat.log2_self_le (Nat.ne_of_gt some)
  have upper : amount < 2 ^ (amount.log2 + 1) := Nat.lt_log2_self
  unfold total at worth
  rw [zero_eq] at worth
  by_cases long : amount.log2 < 54
  · -- So small a total is less than 2^55, and every weight is nothing.
    have nothing : ∀ a ∈ amounts, a = 0 := by
      intro a member
      have short := light a member
      have room : 2 ^ (amount.log2 + 1) ≤ 2 ^ 54 := Nat.pow_le_pow_right (by decide) (by omega)
      omega
    have same := stands_unique worth (foldl_nothing weigh nothing zero_worth)
    omega
  · -- Otherwise no weight can bring the sum over the power of two below its first digit.
    obtain ⟨before, digits⟩ : ∃ before, amount.log2 = before + 1 := ⟨amount.log2 - 1, by omega⟩
    have lighter : ∀ a ∈ amounts, a < 2 ^ (before - 53) := by
      intro a member
      have short := Nat.lt_trans (light a member) upper
      have split : 2 ^ (amount.log2 + 1) = 2 ^ (before - 53) * 2 ^ 55 := by
        rw [← Nat.pow_add]
        congr 1
        omega
      rw [split] at short
      exact Nat.lt_of_mul_lt_mul_right short
    have small : before < 2098 := by
      have fits := Nat.lt_of_le_of_lt lower (worth_lt_limit worth)
      have short := (Nat.pow_lt_pow_iff_right (by decide)).mp fits
      omega
    obtain ⟨stuck, low, worth'⟩ :=
      foldl_light weigh (by omega) small lighter (Nat.zero_le _) zero_worth
    have same := stands_unique worth worth'
    have less : 2 ^ before < 2 ^ amount.log2 := Nat.pow_lt_pow_right (by decide) (by omega)
    omega

-- What the weights are worth when each is divided by an amount.
def parts (amounts : List Nat) (whole : Nat) : List Nat :=
  amounts.map fun a => nearest (a * unity) whole

theorem quotients_weigh (weigh : List.Forall₂ Weighs weights amounts) {whole : Float} {amount : Nat}
    (worth : IsAmount whole amount) (some : 0 < amount) (within : ∀ a ∈ amounts, a ≤ amount) :
    List.Forall₂ Weighs (weights.map (· / whole)) (parts amounts amount) := by
  induction weigh with
  | nil => exact .nil
  | cons weighs _ ih =>
    obtain ⟨first, others⟩ := List.forall_mem_cons.mp within
    exact .cons (weighs.div worth some first) (ih others)

theorem quotients_vanish (weigh : List.Forall₂ Weighs weights amounts) {whole : Float}
    (endless : IsInfinite whole) :
    List.Forall₂ Weighs (weights.map (· / whole)) (amounts.map fun _ => 0) := by
  induction weigh with
  | nil => exact .nil
  | cons weighs _ ih => exact .cons (weighs.div_infinite endless) ih

theorem parts_error (amounts : List Nat) {amount : Nat} (some : 0 < amount) :
    |((parts amounts amount).sum : ℚ) - amounts.sum * unity / amount| ≤
      amounts.length / 2 + amounts.sum * unity / amount / 2 ^ 53 := by
  unfold parts
  generalize unity = unit
  induction amounts with
  | nil => simp
  | cons a rest ih =>
    have first := quotient_error (a * unit) some
    rw [List.map_cons, List.sum_cons, List.sum_cons, List.length_cons]
    push_cast at first ih ⊢
    rw [add_mul, add_div, add_div]
    rw [abs_le] at first ih ⊢
    constructor <;> linarith

theorem find?_valid : (weights.find? fun w => !isValid w) = none ↔ ∀ w ∈ weights, isValid w = true := by
  simp [List.find?_eq_none]

theorem normalize_valid (valid : ∀ w ∈ weights, isValid w = true) :
    normalize weights =
      if total weights == 0 then .error .zeroTotal
      else if (total weights - 1.0).abs ≤ tolerance then .ok weights
      else .ok (weights.map (· / total weights)) := by
  unfold normalize
  rw [find?_valid.mpr valid]

theorem valid_of_normalize {normalized : List Float} (scaled : normalize weights = .ok normalized) :
    ∀ w ∈ weights, isValid w = true := by
  unfold normalize at scaled
  split at scaled
  · cases scaled
  · rename_i none
    exact find?_valid.mp none

theorem infinite_not_close (endless : IsInfinite sum) : ¬ (sum - 1.0).abs ≤ tolerance :=
  (abs_infinite (sub_infinite endless (by decide +kernel))).not_le (by decide +kernel)

end Chronomata.Weights
