import Chronomata.Proofs.Decimal.Fields
import Chronomata.Proofs.Selection.Totals

-- Weights that were normalized once stay as they are, unless their total was lost to infinity or was off by
-- more than the tolerance because there are so many of them.
namespace Chronomata.Weights

open Decimal

-- The amount that the tolerance is worth: 4951760157141521 parts in 2^92 of one.
def slack : Nat := 4951760157141521 * 2 ^ 982

theorem worth_of_binary {x : Float} {mantissa places : Nat} {exponent : Int}
    (exact : binary? x = some ⟨false, mantissa, exponent⟩)
    (units : (exponent + 1074).toNat = places) : IsAmount x (mantissa * 2 ^ places) :=
  isAmount_iff.mpr ⟨_, exact, rfl, by rw [Binary.amount, units]⟩

theorem tolerance_worth : IsAmount tolerance slack := by
  have exact : binary? tolerance = some ⟨false, 4951760157141521, -92⟩ := by decide +kernel
  exact worth_of_binary exact rfl

theorem two_pow_mul_two_pow {first second : Nat} (sum : first + second = 1074) :
    2 ^ first * 2 ^ second = unity := by
  rw [unity, ← sum, Nat.pow_add]

theorem one_worth : IsAmount 1.0 unity := by
  have exact : binary? 1.0 = some ⟨false, 2 ^ 52, -52⟩ := by decide +kernel
  have unit : 2 ^ 52 * 2 ^ 1022 = unity := two_pow_mul_two_pow rfl
  rw [← unit]
  exact worth_of_binary exact rfl

-- The distance of two amounts is no more than the larger one, so it is finite.
theorem distance_fits {x y : Float} {a b : Nat} (left : IsAmount x a) (right : IsAmount y b) :
    nearest (distance a b) 1 < limit := by
  have larger : nearest (max a b) 1 < limit := by
    rcases max_choice a b with same | same <;> rw [same]
    · exact (nearest_worth left).symm ▸ worth_lt_limit left
    · exact (nearest_worth right).symm ▸ worth_lt_limit right
  refine Nat.lt_of_le_of_lt (nearest_mono ?_ 1) larger
  unfold distance
  omega

theorem close_iff {sum : Float} {amount : Nat} (worth : IsAmount sum amount) :
    (sum - 1.0).abs ≤ tolerance ↔ nearest (distance amount unity) 1 ≤ slack :=
  (abs_sub_worth worth one_worth (distance_fits worth one_worth)).le_iff tolerance_worth

theorem close_of_near {sum : Float} {amount : Nat} (worth : IsAmount sum amount)
    (near : distance amount unity ≤ slack) : (sum - 1.0).abs ≤ tolerance := by
  have rounded := nearest_mono near 1
  rw [nearest_worth tolerance_worth] at rounded
  exact (close_iff worth).mpr rounded

theorem slack_parts : slack * 2 ^ 92 = 4951760157141521 * unity := by
  rw [slack, unity]
  exact mul_two_pow_eq _ rfl

theorem cast_distance (a b : Nat) : (distance a b : ℚ) = |(a : ℚ) - b| := by
  rw [distance, Nat.cast_natAbs, Int.cast_abs]
  push_cast
  rfl

theorem near_of_abs {amount : Nat}
    (near : |(amount : ℚ) - unity| ≤ unity * (4951760157141521 / 2 ^ 92)) :
    distance amount unity ≤ slack := by
  have parts := slack_parts
  rw [← cast_distance] at near
  generalize distance amount unity = apart at *
  generalize unity = unit at *
  generalize slack = room at *
  have parts' : (room : ℚ) * 2 ^ 92 = 4951760157141521 * unit := by exact_mod_cast parts
  have within : (apart : ℚ) ≤ room := by linarith
  exact_mod_cast within

variable {weights : List Float} {amounts : List Nat}

-- The exact quotients add up to one, but for the error of the first total.
theorem exact_near {whole : Nat} (some : 0 < whole) (unit : Nat)
    (error : |(whole : ℚ) - amounts.sum| ≤ amounts.length * (whole / 2 ^ 53)) :
    |(amounts.sum * unit / whole : ℚ) - unit| ≤ amounts.length * (unit / 2 ^ 53) := by
  have positive : (0 : ℚ) < whole := by exact_mod_cast some
  have difference : (amounts.sum * unit / whole : ℚ) - unit =
      (amounts.sum - whole) * (unit / whole) := by
    field_simp
  rw [difference, abs_mul, abs_sub_comm, abs_of_nonneg (by positivity : (0 : ℚ) ≤ unit / whole)]
  calc |(whole : ℚ) - amounts.sum| * (unit / whole)
      ≤ amounts.length * (whole / 2 ^ 53) * (unit / whole) := by gcongr
    _ = amounts.length * (unit / 2 ^ 53) := by field_simp

-- Each rounding of the two sums and of the quotients adds to the error; for 4500 weights it is still
-- within the tolerance.
theorem short_near {whole again : Nat} (some : 0 < whole) (short : amounts.length ≤ 4500)
    (first : |(whole : ℚ) - amounts.sum| ≤ amounts.length * (whole / 2 ^ 53))
    (second : |(again : ℚ) - (parts amounts whole).sum| ≤
      (parts amounts whole).length * (again / 2 ^ 53)) : distance again unity ≤ slack := by
  refine near_of_abs ?_
  have exact := exact_near some unity first
  have quotients := parts_error amounts some
  have large := two_pow_le_unity (show 80 ≤ 1074 by decide)
  have few : (amounts.length : ℚ) ≤ 4500 := by exact_mod_cast short
  rw [show (parts amounts whole).length = amounts.length from List.length_map _] at second
  generalize unity = unit at *
  generalize ((parts amounts whole).sum : ℚ) = rounded at *
  generalize (amounts.sum * unit / whole : ℚ) = quotient at *
  have large' : (2 : ℚ) ^ 80 ≤ unit := by exact_mod_cast large
  have exact' : |quotient - unit| ≤ 4500 * (unit / 2 ^ 53) := by
    refine le_trans exact ?_
    gcongr
  have second' : |(again : ℚ) - rounded| ≤ 4500 * (again / 2 ^ 53) := by
    refine le_trans second ?_
    gcongr
  rw [abs_le] at exact' second' quotients ⊢
  constructor <;> linarith

-- When dividing by the total changes nothing, the total is one but for the last digit.
theorem fixed_near (weigh : List.Forall₂ Weighs weights amounts) {whole : Nat}
    (worth : IsAmount (total weights) whole) (some : 0 < whole)
    (fixed : parts amounts whole = amounts) : distance whole unity ≤ slack := by
  refine near_of_abs ?_
  obtain ⟨a, member, heavy⟩ := exists_heavy weigh worth some
  have same : nearest (a * unity) whole = a :=
    List.map_inj_left.mp (fixed.trans (List.map_id amounts).symm) a member
  have some' : 0 < a := by
    by_contra none
    rw [Nat.eq_zero_of_not_pos none, Nat.zero_mul] at heavy
    omega
  have large := two_pow_le_unity (show 107 ≤ 1074 by decide)
  have long : 2 ^ 52 ≤ a * unity / whole := by
    rw [Nat.le_div_iff_mul_le some]
    calc 2 ^ 52 * whole ≤ 2 ^ 52 * (a * 2 ^ 55) := Nat.mul_le_mul_left _ heavy
      _ = a * 2 ^ 107 := by ring
      _ ≤ a * unity := Nat.mul_le_mul_left _ large
  have error := long_quotient_error some long
  rw [same] at error
  have positive : (0 : ℚ) < whole := by exact_mod_cast some
  have positive' : (0 : ℚ) < a := by exact_mod_cast some'
  generalize unity = unit at *
  push_cast at error
  have difference : (a : ℚ) - a * unit / whole = (whole - unit) * (a / whole) := by
    field_simp
  rw [difference, abs_mul, abs_of_pos (by positivity : (0 : ℚ) < a / whole)] at error
  have scaled : |(whole : ℚ) - unit| ≤ whole / 2 ^ 53 := by
    have ratio : (0 : ℚ) < a / whole := by positivity
    refine le_of_mul_le_mul_right (le_trans error (le_of_eq ?_)) ratio
    field_simp
  rw [abs_le] at scaled ⊢
  constructor <;> linarith

theorem rightUnique_weighs : Relator.RightUnique Weighs := fun _ _ _ => Weighs.unique

theorem Weighs.beq_zero {x : Float} (weighs : Weighs x 0) : x == 0 :=
  (weighs.beq_iff (.amount zero_worth)).mpr rfl

theorem nothing_of_weigh (weigh : List.Forall₂ Weighs weights amounts)
    (none : ∀ a ∈ amounts, a = 0) : ∀ w ∈ weights, w == 0 := by
  induction weigh with
  | nil => exact List.forall_mem_nil _
  | cons weighs _ ih =>
    obtain ⟨rfl, nothing⟩ := List.forall_mem_cons.mp none
    exact List.forall_mem_cons.mpr ⟨weighs.beq_zero, ih nothing⟩

-- A total that is lost to infinity leaves nothing, and nothing cannot be normalized.
theorem normalize_infinite {normalized : List Float} (scaled : normalize weights = .ok normalized)
    (endless : IsInfinite (total weights)) :
    (∀ w ∈ normalized, w == 0) ∧ normalize normalized = .error .zeroTotal := by
  have valid := valid_of_normalize scaled
  obtain ⟨amounts, weigh⟩ := exists_amounts valid
  rw [normalize_valid valid, endless.not_beq_zero, if_neg Bool.false_ne_true,
    if_neg (infinite_not_close endless)] at scaled
  cases scaled
  have vanished := quotients_vanish weigh endless
  have none : ∀ a ∈ amounts.map fun _ => 0, a = 0 := by simp
  have nothing := foldl_nothing vanished none zero_worth
  refine ⟨nothing_of_weigh vanished none, ?_⟩
  rw [normalize_valid (valid_of_weigh vanished), if_pos]
  rw [total, zero_eq]
  exact nothing.beq_zero_iff.mpr rfl

-- Weights of one at most have a finite total, however many there are.
theorem total_light (weigh : List.Forall₂ Weighs weights amounts) (light : ∀ a ∈ amounts, a ≤ unity) :
    ∃ whole, Summed (total weights) 0 amounts whole := by
  have lighter : ∀ a ∈ amounts, a < 2 ^ (1128 - 53) := by
    intro a member
    refine Nat.lt_of_le_of_lt (light a member) ?_
    rw [unity, Nat.pow_lt_pow_iff_right (by decide)]
    decide
  obtain ⟨_, _, worth⟩ :=
    foldl_light weigh (by decide) (by decide) lighter (Nat.zero_le _) zero_worth
  rw [← zero_eq] at worth
  exact (total_summed weigh).resolve_left (not_isInfinite worth.isFinite)

theorem parts_light {whole : Nat} (some : 0 < whole) (within : ∀ a ∈ amounts, a ≤ whole) :
    ∀ part ∈ parts amounts whole, part ≤ unity := by
  intro part member
  obtain ⟨a, listed, rfl⟩ := List.mem_map.mp member
  exact nearest_part_le some (within a listed)

-- The quotients are one at most, so their total is finite; and not all of them vanish.
theorem quotients_summed (weigh : List.Forall₂ Weighs weights amounts) {whole : Nat}
    (summed : Summed (total weights) 0 amounts whole) (some : 0 < whole) :
    ∃ again, 0 < again ∧
      Summed (total (weights.map (· / total weights))) 0 (parts amounts whole) again := by
  have weigh' := quotients_weigh weigh summed.worth some summed.le_total
  obtain ⟨again, summed'⟩ := total_light weigh' (parts_light some summed.le_total)
  obtain ⟨a, listed, heavy⟩ := exists_heavy weigh summed.worth some
  have large := Nat.mul_le_mul_left a (two_pow_le_unity (show 55 ≤ 1074 by decide))
  have present := nearest_pos (Nat.le_trans heavy large) some
  have below := summed'.le_total _ (List.mem_map_of_mem listed)
  exact ⟨again, Nat.lt_of_lt_of_le present below, summed'⟩

-- Weights that add up to something finite stay as they are only when it is close to one.
theorem normalize_fixed_iff (weigh : List.Forall₂ Weighs weights amounts) {whole : Nat}
    (summed : Summed (total weights) 0 amounts whole) (some : 0 < whole) :
    normalize weights = .ok weights ↔ (total weights - 1.0).abs ≤ tolerance := by
  have counted : ¬ (total weights == 0) := by
    rw [summed.worth.beq_zero_iff]
    omega
  rw [normalize_valid (valid_of_weigh weigh), if_neg counted]
  split_ifs with close
  · exact iff_of_true rfl close
  · refine iff_of_false ?_ close
    intro same
    have weigh' := quotients_weigh weigh summed.worth some summed.le_total
    rw [Except.ok.inj same] at weigh'
    have fixed := List.right_unique_forall₂' rightUnique_weighs weigh' weigh
    exact close (close_of_near summed.worth (fixed_near weigh summed.worth some fixed))

-- What is left of a finite total, when it had to be divided by.
theorem normalize_finite {normalized : List Float} (scaled : normalize weights = .ok normalized)
    (finite : ¬ IsInfinite (total weights)) :
    (normalize normalized = .ok normalized ↔ (total normalized - 1.0).abs ≤ tolerance) ∧
      (weights.length ≤ 4500 → normalize normalized = .ok normalized) := by
  have valid := valid_of_normalize scaled
  obtain ⟨amounts, weigh⟩ := exists_amounts valid
  obtain ⟨whole, summed⟩ := (total_summed weigh).resolve_left finite
  have before := scaled
  rw [normalize_valid valid] at scaled
  split_ifs at scaled with none close
  · cases scaled
    exact ⟨iff_of_true before close, fun _ => before⟩
  · cases scaled
    have some : 0 < whole := by
      refine Nat.pos_of_ne_zero ?_
      intro zero
      exact none (summed.worth.beq_zero_iff.mpr zero)
    have weigh' := quotients_weigh weigh summed.worth some summed.le_total
    obtain ⟨again, some', summed'⟩ := quotients_summed weigh summed some
    have stays := normalize_fixed_iff weigh' summed' some'
    refine ⟨stays, ?_⟩
    intro short
    rw [weigh.length_eq] at short
    have near := short_near some short summed.sum_error summed'.sum_error
    exact stays.mpr (close_of_near summed'.worth near)

-- Normalizing again changes nothing, but for a total that is lost to infinity, or one that is off by more
-- than the tolerance after the first time. It takes thousands of weights to be off so much.
theorem normalized_exact {normalized : List Float} (scaled : normalize weights = .ok normalized) :
    ((total weights).isFinite = false →
        (∀ w ∈ normalized, w == 0) ∧ normalize normalized = .error .zeroTotal) ∧
      ((total weights).isFinite = true →
        (normalize normalized = .ok normalized ↔ (total normalized - 1.0).abs ≤ tolerance) ∧
          (weights.length ≤ 4500 → normalize normalized = .ok normalized)) := by
  obtain ⟨amounts, weigh⟩ := exists_amounts (valid_of_normalize scaled)
  constructor
  · intro lost
    by_cases endless : IsInfinite (total weights)
    · exact normalize_infinite scaled endless
    · obtain ⟨whole, summed⟩ := (total_summed weigh).resolve_left endless
      rw [summed.worth.isFinite] at lost
      cases lost
  · intro finite
    refine normalize_finite scaled ?_
    intro endless
    rw [endless.not_isFinite] at finite
    cases finite

theorem normalized_exact_overflowing :
    normalize [1.7e308, 1.7e308] = .ok [0, 0] ∧ normalize [0, 0] = .error .zeroTotal ∧
      normalize [1, 1, 2] = .ok [0.25, 0.25, 0.5] ∧
      normalize [0.25, 0.25, 0.5] = .ok [0.25, 0.25, 0.5] := by
  have lost : normalize [1.7e308, 1.7e308] = .ok [0, 0] := by decide +kernel
  have kept : normalize [1, 1, 2] = .ok [0.25, 0.25, 0.5] := by decide +kernel
  obtain ⟨infinite, _⟩ := normalized_exact lost
  obtain ⟨_, finite⟩ := normalized_exact kept
  exact ⟨lost, (infinite (by decide +kernel)).2, kept, (finite (by decide +kernel)).2 (by decide)⟩

end Chronomata.Weights
