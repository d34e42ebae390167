import Chronomata.Proofs.Selection.Normalization

-- What normalizing does to each weight. It fails only when every weight is nothing, and it makes a weight
-- nothing only when the total is infinite or so large that no float can show the weight's part of it.
namespace Chronomata.Weights

open Decimal

variable {weights normalized : List Float} {weight : Float}

theorem Weighs.units {x : Float} {a : Nat} (weighs : Weighs x a) : Decimal.units x = a := by
  cases weighs with
  | amount worth => exact worth.units
  | nothing negative =>
    rw [Decimal.units, binary?_eq, negative]
    exact Nat.zero_mul _

theorem weighs_units (valid : isValid weight = true) : Weighs weight (units weight) := by
  obtain ⟨a, weighs⟩ := isValid_iff.mp valid
  rwa [weighs.units]

theorem weigh_units (valid : ∀ w ∈ weights, isValid w = true) :
    List.Forall₂ Weighs weights (weights.map units) :=
  List.forall₂_map_right_iff.mpr (List.forall₂_same.mpr fun w member => weighs_units (valid w member))

theorem zero_lt_iff (valid : isValid weight = true) : 0 < weight ↔ 0 < units weight :=
  Weighs.lt_iff (.amount zero_worth) (weighs_units valid)

theorem beq_zero_iff (valid : isValid weight = true) : weight == 0 ↔ units weight = 0 :=
  (weighs_units valid).beq_iff (.amount zero_worth)

theorem not_zero_lt_iff (valid : isValid weight = true) : ¬ 0 < weight ↔ weight == 0 := by
  rw [zero_lt_iff valid, beq_zero_iff valid, Nat.not_lt, Nat.le_zero]

-- What normalizing makes of a weight.
def scale (weights : List Float) (weight : Float) : Float :=
  if (total weights - 1.0).abs ≤ tolerance then weight else weight / total weights

-- A total that is nothing leaves nothing to divide by.
theorem total_beq_zero (valid : ∀ w ∈ weights, isValid w = true) :
    total weights == 0 ↔ ∀ w ∈ weights, w == 0 := by
  have weigh := weigh_units valid
  constructor
  · intro none
    have finite : ¬ IsInfinite (total weights) := by
      intro endless
      rw [endless.not_beq_zero] at none
      cases none
    obtain ⟨whole, summed⟩ := (total_summed weigh).resolve_left finite
    have nothing := summed.worth.beq_zero_iff.mp none
    refine nothing_of_weigh weigh ?_
    intro a member
    exact Nat.eq_zero_of_le_zero (nothing ▸ summed.le_total a member)
  · intro none
    have nothing : ∀ a ∈ weights.map units, a = 0 := by
      intro a member
      obtain ⟨w, listed, rfl⟩ := List.mem_map.mp member
      exact (beq_zero_iff (valid w listed)).mp (none w listed)
    have worth := foldl_nothing weigh nothing zero_worth
    rw [total, zero_eq]
    exact worth.beq_zero_iff.mpr rfl

theorem normalize_eq_ok : normalize weights = .ok normalized ↔
    (∀ w ∈ weights, isValid w = true) ∧ (total weights == 0) = false ∧
      normalized = weights.map (scale weights) := by
  constructor
  · intro scaled
    have valid := valid_of_normalize scaled
    rw [normalize_valid valid] at scaled
    by_cases none : total weights == 0
    · rw [if_pos none] at scaled
      cases scaled
    · rw [if_neg none] at scaled
      refine ⟨valid, Bool.eq_false_iff.mpr none, ?_⟩
      unfold scale
      split_ifs at scaled ⊢ with close
      · rw [List.map_id']
        exact (Except.ok.inj scaled).symm
      · exact (Except.ok.inj scaled).symm
  · rintro ⟨valid, some, rfl⟩
    rw [normalize_valid valid, some, if_neg Bool.false_ne_true]
    unfold scale
    split_ifs with close
    · rw [List.map_id']
    · rfl

theorem normalize_eq_error {cause : WeightError} (valid : ∀ w ∈ weights, isValid w = true) :
    normalize weights = .error cause ↔ cause = .zeroTotal ∧ ∀ w ∈ weights, w == 0 := by
  rw [normalize_valid valid, ← total_beq_zero valid]
  split_ifs with none close <;> simp [none, eq_comm]

-- Whether a weight is left with anything: its part of the total, counted in least units, must be more than
-- one half.
def Survives (weights : List Float) (weight : Float) : Prop :=
  (total weights - 1.0).abs ≤ tolerance ∨
    (total weights).isFinite ∧ units (total weights) < 2 * (units weight * unity)

-- What is divided by a total that it is in stays valid.
theorem div_valid (valid : ∀ w ∈ weights, isValid w = true) (some : (total weights == 0) = false)
    (member : weight ∈ weights) : isValid (weight / total weights) = true ∧
      (0 < weight / total weights ↔
        (total weights).isFinite ∧ units (total weights) < 2 * (units weight * unity)) := by
  have weighs := weighs_units (valid weight member)
  rcases total_summed (weigh_units valid) with endless | ⟨whole, summed⟩
  · have vanished := weighs.div_infinite endless
    have valid' := isValid_iff.mpr ⟨_, vanished⟩
    refine ⟨valid', ?_⟩
    rw [zero_lt_iff valid', vanished.units, endless.not_isFinite]
    simp
  · have positive := summed.worth.not_beq_zero_iff.mp some
    have within := summed.le_total _ (List.mem_map_of_mem member)
    have part := weighs.div summed.worth positive within
    have valid' := isValid_iff.mpr ⟨_, part⟩
    refine ⟨valid', ?_⟩
    rw [zero_lt_iff valid', part.units, nearest_pos_iff positive, summed.worth.units]
    exact (and_iff_right summed.worth.isFinite).symm

theorem scale_valid (valid : ∀ w ∈ weights, isValid w = true) (some : (total weights == 0) = false)
    (member : weight ∈ weights) : isValid (scale weights weight) = true := by
  unfold scale
  split_ifs with close
  · exact valid weight member
  · exact (div_valid valid some member).1

theorem scale_pos_iff (valid : ∀ w ∈ weights, isValid w = true) (some : (total weights == 0) = false)
    (member : weight ∈ weights) :
    0 < scale weights weight ↔ 0 < weight ∧ Survives weights weight := by
  unfold scale Survives
  split_ifs with close
  · simp [close]
  · simp only [close, false_or, (div_valid valid some member).2, zero_lt_iff (valid weight member)]
    refine ⟨fun kept => ⟨?_, kept⟩, And.right⟩
    have larger := kept.2
    refine Nat.pos_of_ne_zero ?_
    intro none
    rw [none, Nat.zero_mul, Nat.mul_zero] at larger
    exact Nat.not_lt_zero _ larger

end Chronomata.Weights
