import Chronomata.Proofs.Decimal.Comparison
import Chronomata.Random.Seed
import Chronomata.Proofs.Selection.Totals
import Chronomata.Selection

-- A draw among positive weights gives an index unless the running sum of the weights becomes infinite: then
-- every quotient vanishes, and no draw reaches any member.
namespace Chronomata.Seed

open Decimal Float.Model Float.Model.UnpackedFloat

theorem upper_bits_lt (word : UInt64) : (word >>> 11).toNat < 2 ^ 53 := by
  rw [UInt64.toNat_shiftRight]
  have bound := word.toNat_lt
  show word.toNat >>> 11 < 2 ^ 53
  rw [Nat.shiftRight_eq_div_pow]
  omega

-- An amount of 53 digits within range is neither rounded nor infinite.
theorem worth_of_rounded {x : Float} {mantissa places : Nat} (bounded : mantissa < 2 ^ 53)
    (small : places ≤ 2045) (rounded : Rounded x (nearest (mantissa * 2 ^ places) 1)) :
    IsAmount x (mantissa * 2 ^ places) := by
  rw [nearest_exact bounded] at rounded
  cases rounded with
  | finite fits worth => exact worth
  | infinite large endless => exact absurd large (Nat.not_le.mpr (lt_limit bounded small))

theorem drawUnit_worth : IsAmount drawUnit (2 ^ 1021) := by
  have packed : drawUnit =
      .ofModel (Float.Model.pack (.finite .positive (2 ^ 52) (-105) (by decide))) := by
    decide +kernel
  rw [packed]
  exact pack_two_pow_worth (by decide) (by decide) rfl

-- The bits that are drawn become a float, and the float a fraction, exactly.
theorem fraction_worth (word : UInt64) :
    IsAmount (fraction word) ((word >>> 11).toNat * 2 ^ 1021) := by
  have bounded := upper_bits_lt word
  have whole := worth_of_rounded bounded (by decide) (toFloat_rounded (word >>> 11))
  have rounded := mul_rounded whole drawUnit_worth
  unfold unity at rounded
  rw [nearest_two_pow _ (Nat.add_comm 1074 1021)] at rounded
  exact worth_of_rounded bounded (by decide) rounded

-- A draw is less than one.
theorem fraction_lt_unity (word : UInt64) : (word >>> 11).toNat * 2 ^ 1021 < unity :=
  mul_two_pow_lt (upper_bits_lt word) rfl

end Chronomata.Seed

namespace Chronomata.Weights

open Decimal Float.Model Float.Model.UnpackedFloat

-- The weights that a checked definition can have.
def AllPositive (weights : List Float) : Prop :=
  ∀ w ∈ weights, ∃ amount, 0 < amount ∧ IsAmount w amount

theorem AllPositive.valid {weights : List Float} (positive : AllPositive weights) :
    ∀ w ∈ weights, isValid w = true := by
  intro w member
  obtain ⟨a, _, worth⟩ := positive w member
  exact isValid_iff.mpr ⟨a, .amount worth⟩

-- The total is infinite, or so small that the quotient of some weight does not vanish.
theorem total_cases {weights : List Float} (positive : AllPositive weights) (any : weights ≠ []) :
    IsInfinite (total weights) ∨
      ∃ amount, 0 < amount ∧ IsAmount (total weights) amount ∧
        ∃ w ∈ weights, ∃ a, amount ≤ a * unity ∧ IsAmount w a := by
  obtain ⟨amounts, weigh⟩ := exists_amounts positive.valid
  have present : ∀ a ∈ amounts, ∃ w ∈ weights, 0 < a ∧ IsAmount w a := by
    intro a member
    obtain ⟨w, listed, weighs⟩ := exists_weight weigh member
    obtain ⟨b, some, worth⟩ := positive w listed
    have same : b = a := (Weighs.amount worth).unique weighs
    exact ⟨w, listed, same ▸ some, same ▸ worth⟩
  rcases total_summed weigh with endless | ⟨whole, summed⟩
  · exact .inl endless
  · have some : 0 < whole := by
      have others : amounts ≠ [] := by
        rintro rfl
        exact any (List.forall₂_nil_right_iff.mp weigh)
      obtain ⟨a, member⟩ := List.exists_mem_of_ne_nil amounts others
      obtain ⟨_, _, positive', _⟩ := present a member
      exact Nat.lt_of_lt_of_le positive' (summed.le_total a member)
    obtain ⟨a, member, heavy⟩ := exists_heavy weigh summed.worth some
    obtain ⟨w, listed, _, worth⟩ := present a member
    have enough := Nat.mul_le_mul_left a (two_pow_le_unity (show 55 ≤ 1074 by decide))
    exact .inr ⟨whole, some, summed.worth, w, listed, a, Nat.le_trans heavy enough, worth⟩

theorem normalize_cases {weights : List Float} (positive : AllPositive weights)
    (some : (total weights == 0) = false) :
    normalize weights = .ok weights ∧ (total weights - 1.0).abs ≤ tolerance ∨
      normalize weights = .ok (weights.map (· / total weights)) ∧
        ¬ (total weights - 1.0).abs ≤ tolerance := by
  have normalized := normalize_valid positive.valid
  rw [some, if_neg Bool.false_ne_true] at normalized
  by_cases close : (total weights - 1.0).abs ≤ tolerance
  · exact .inl ⟨normalized.trans (if_pos close), close⟩
  · exact .inr ⟨normalized.trans (if_neg close), close⟩

-- The index is that of the first running sum above the draw.
theorem indexBelow_eq_some {draw sum : Float} {weights : List Float} {index : Nat} :
    indexBelow draw sum weights = some index ↔
      index < weights.length ∧ draw < (weights.take (index + 1)).foldl (· + ·) sum ∧
        ∀ before < index, ¬ draw < (weights.take (before + 1)).foldl (· + ·) sum := by
  induction weights generalizing sum index with
  | nil => simp [indexBelow]
  | cons w rest ih =>
    unfold indexBelow
    cases index with
    | zero => split_ifs with first <;> simp [first]
    | succ index =>
      simp only [List.length_cons, Nat.add_lt_add_iff_right, List.take_succ_cons, List.foldl_cons,
        Nat.forall_lt_succ_left, List.take_zero, List.foldl_nil]
      split_ifs with first
      · simp [first]
      · simp [first, ih]

theorem indexBelow_eq_none {draw sum : Float} {weights : List Float} :
    indexBelow draw sum weights = none ↔ ∀ before < weights.length,
      ¬ draw < (weights.take (before + 1)).foldl (· + ·) sum := by
  induction weights generalizing sum with
  | nil => simp [indexBelow]
  | cons w rest ih =>
    unfold indexBelow
    simp only [List.length_cons, Nat.forall_lt_succ_left, List.take_succ_cons, List.foldl_cons,
      List.take_zero, List.foldl_nil]
    split_ifs with first <;> simp [first, ih]

theorem lastPositive_eq_none {weights : List Float} :
    lastPositive weights = none ↔ ∀ w ∈ weights, ¬ 0 < w := by
  induction weights with
  | nil => simp [lastPositive]
  | cons w rest ih =>
    unfold lastPositive
    cases found : lastPositive rest with
    | some index =>
      have heavy := mt ih.mpr (by simp [found])
      simp only [List.mem_cons, reduceCtorEq, false_iff]
      exact fun none => heavy fun other member => none other (.inr member)
    | none =>
      have light := ih.mp found
      by_cases heavy : 0 < w <;> simp [heavy] at light ⊢
      exact light

-- A member with some weight that none with any follows.
theorem lastPositive_eq_some {weights : List Float} {index : Nat}
    (found : lastPositive weights = some index) :
    (∃ w, weights[index]? = some w ∧ 0 < w) ∧
      ∀ {later w}, weights[later]? = some w → 0 < w → later ≤ index := by
  induction weights generalizing index with
  | nil => cases found
  | cons w rest ih =>
    unfold lastPositive at found
    cases behind : lastPositive rest with
    | some previous =>
      rw [behind] at found
      cases found
      obtain ⟨present, last⟩ := ih behind
      refine ⟨present, ?_⟩
      intro later v there heavy
      cases later with
      | zero => exact Nat.zero_le _
      | succ later => exact Nat.succ_le_succ (last there heavy)
    | none =>
      rw [behind] at found
      dsimp only at found
      split_ifs at found with heavy
      cases found
      refine ⟨⟨w, rfl, heavy⟩, ?_⟩
      intro later v there heavy'
      cases later with
      | zero => exact Nat.le_refl _
      | succ later =>
        exact absurd heavy' (lastPositive_eq_none.mp behind v (List.mem_of_getElem? there))

theorem normalize_length {weights normalized : List Float}
    (scaled : normalize weights = .ok normalized) : normalized.length = weights.length := by
  unfold normalize at scaled
  split at scaled
  · cases scaled
  · dsimp only at scaled
    split_ifs at scaled <;> cases scaled
    · rfl
    · exact List.length_map _

theorem exists_normalized {weights : List Float} {draw : Float} {index : Nat}
    (found : indexAt weights draw = some index) : ∃ normalized, normalize weights = .ok normalized := by
  cases scaled : normalize weights with
  | error cause =>
    simp only [indexAt, scaled] at found
    cases found
  | ok normalized => exact ⟨normalized, rfl⟩

theorem indexAt_eq {weights normalized : List Float} {draw : Float}
    (scaled : normalize weights = .ok normalized) :
    indexAt weights draw = (indexBelow draw 0.0 normalized).or (lastPositive normalized) := by
  simp only [indexAt, scaled]

theorem indexAt_lt {weights : List Float} {draw : Float} {index : Nat}
    (found : indexAt weights draw = some index) : index < weights.length := by
  obtain ⟨normalized, scaled⟩ := exists_normalized found
  rw [indexAt_eq scaled] at found
  rw [← normalize_length scaled]
  rcases Option.or_eq_some_iff.mp found with below | ⟨_, last⟩
  · exact (indexBelow_eq_some.mp below).1
  · obtain ⟨⟨w, there, _⟩, _⟩ := lastPositive_eq_some last
    exact (List.getElem?_eq_some_iff.mp there).1

-- Adding nothing leaves a running sum at nothing, which no draw is below.
theorem indexBelow_nothing {draw sum : Float} {n : Nat} (drawn : Rounded draw n)
    (start : IsAmount sum 0) {weights : List Float} (nothing : ∀ w ∈ weights, IsAmount w 0) :
    indexBelow draw sum weights = none := by
  induction weights generalizing sum with
  | nil => rfl
  | cons w rest ih =>
    have weighs : Weighs w 0 := .amount (nothing w List.mem_cons_self)
    have added : IsAmount (sum + w) 0 := weighs.add_nothing start
    rw [indexBelow, if_neg (drawn.not_lt added),
      ih added fun other member => nothing other (List.mem_cons_of_mem _ member)]
    rfl

-- An infinite total leaves every weight with a quotient of nothing.
theorem indexAt_infinite {weights : List Float} (positive : AllPositive weights)
    (endless : IsInfinite (total weights)) {draw : Float} {n : Nat} (drawn : Rounded draw n) :
    indexAt weights draw = none := by
  have nothing : ∀ q ∈ weights.map (· / total weights), IsAmount q 0 := by
    intro q member
    obtain ⟨w, listed, rfl⟩ := List.mem_map.mp member
    obtain ⟨a, _, worth⟩ := positive w listed
    exact div_infinite worth endless
  have unreached : indexBelow draw 0.0 (weights.map (· / total weights)) = none := by
    rw [zero_eq]
    exact indexBelow_nothing drawn zero_worth nothing
  have unweighted : lastPositive (weights.map (· / total weights)) = none := by
    refine lastPositive_eq_none.mpr ?_
    intro q member heavy
    exact Nat.lt_irrefl 0 ((nothing q member).zero_lt_iff.mp heavy)
  rcases normalize_cases positive endless.not_beq_zero with ⟨_, close⟩ | ⟨scaled, _⟩
  · exact absurd close (infinite_not_close endless)
  · rw [indexAt_eq scaled, unreached, unweighted, Option.or_none]

-- With a finite total a heavy weight keeps a positive quotient, so some member is drawn.
theorem indexAt_finite {weights : List Float} (positive : AllPositive weights) (any : weights ≠ [])
    (finite : ¬ IsInfinite (total weights)) (draw : Float) : indexAt weights draw ≠ none := by
  obtain ⟨amount, some, totalWorth, heavy, member, a, enough, worth⟩ :=
    (total_cases positive any).resolve_left finite
  have quotient : 0 < heavy / total weights := by
    cases div_rounded worth totalWorth some with
    | finite _ kept => exact kept.zero_lt_iff.mpr (nearest_pos enough some)
    | infinite _ endless => exact endless.zero_lt
  have counted := totalWorth.not_beq_zero_iff.mpr some
  have drawn : ∀ {normalized : List Float}, normalize weights = .ok normalized →
      (∃ w ∈ normalized, 0 < w) → indexAt weights draw ≠ none := by
    intro normalized scaled reached none
    rw [indexAt_eq scaled, Option.or_eq_none_iff, lastPositive_eq_none] at none
    obtain ⟨w, listed, weighs⟩ := reached
    exact none.2 w listed weighs
  rcases normalize_cases positive counted with ⟨scaled, _⟩ | ⟨scaled, _⟩
  · obtain ⟨b, present, heavyWorth⟩ := positive heavy member
    exact drawn scaled ⟨heavy, member, heavyWorth.zero_lt_iff.mpr present⟩
  · exact drawn scaled ⟨_, List.mem_map_of_mem member, quotient⟩

-- A draw fails exactly when the total of the weights is not finite.
theorem drawIndex_eq_none {weights : List Float} (positive : AllPositive weights)
    (any : weights ≠ []) (seed : Seed) :
    drawIndex weights seed = none ↔ (total weights).isFinite = false := by
  have drawn : Rounded seed.draw _ :=
    .finite (Nat.lt_trans (Seed.fraction_lt_unity _) unity_lt_limit) (Seed.fraction_worth _)
  constructor
  · intro none
    by_contra finite
    refine indexAt_finite positive any ?_ seed.draw none
    intro endless
    exact finite endless.not_isFinite
  · intro notFinite
    rcases total_cases positive any with endless | ⟨amount, _, worth, _⟩
    · exact indexAt_infinite positive endless drawn
    · rw [worth.isFinite] at notFinite
      cases notFinite

end Chronomata.Weights
