import Chronomata.Proofs.Selection.Shares

-- The shares of some weights after all of them were divided by their total. The edges between the shares move
-- by what the division is rounded, so a draw that is clear of them gives the same index before and after.
namespace Chronomata.Weights

open Decimal

variable {weights : List Float} {amounts : List Nat} {draw sum : Float}

theorem ratio_near {part whole rounded rounded' error : ℚ} (positive : 0 < whole) (low : 0 ≤ part)
    (high : part ≤ whole) (near : |rounded - part| ≤ error) (near' : |rounded' - whole| ≤ error)
    (small : error ≤ whole / 4) : |rounded / rounded' - part / whole| ≤ 3 * (error / whole) := by
  have shared := part_near positive low high near (abs_sub_comm rounded' whole ▸ near')
  have most : whole * (3 / 4) ≤ rounded' := by
    have near'' := (abs_le.mp near').1
    linarith
  have none : 0 ≤ error := (abs_nonneg _).trans near
  refine near_of_scaled (by linarith) (shared.trans ?_)
  calc error + error ≤ whole * (3 / 4) * (3 * (error / whole)) := by
        field_simp
        linarith
    _ ≤ rounded' * (3 * (error / whole)) := by gcongr

section Parts

variable {whole : Nat}

-- Amounts that are more than the least normal part of a whole.
theorem long_of_enough (some : 0 < whole) (enough : whole ≤ 2 ^ 1022 * amounts.sum) :
    1 ≤ amounts.length ∧ (2 : ℚ) ^ 52 ≤ amounts.sum * unity / whole := by
  have long : 2 ^ 52 * whole ≤ amounts.sum * unity := by
    calc 2 ^ 52 * whole ≤ 2 ^ 52 * (2 ^ 1022 * amounts.sum) := Nat.mul_le_mul_left _ enough
      _ = amounts.sum * unity := by
        rw [← Nat.mul_assoc, two_pow_mul_two_pow rfl, Nat.mul_comm]
  generalize unity = unit at *
  constructor
  · by_contra none
    obtain rfl := List.length_eq_zero_iff.mp (by omega : amounts.length = 0)
    rw [List.sum_nil, Nat.zero_mul] at long
    omega
  · have positive : (0 : ℚ) < whole := by exact_mod_cast some
    rw [le_div_iff₀ positive]
    exact_mod_cast long

theorem parts_sum_pos (some : 0 < whole) (few : amounts.length ≤ 2 ^ 50)
    (enough : whole ≤ 2 ^ 1022 * amounts.sum) : 0 < (parts amounts whole).sum := by
  obtain ⟨_, long⟩ := long_of_enough some enough
  have few' : (amounts.length : ℚ) ≤ 2 ^ 50 := by exact_mod_cast few
  have error := (abs_le.mp (parts_error amounts some)).1
  generalize (amounts.sum * unity / whole : ℚ) = exact at *
  have positive : (0 : ℚ) < (parts amounts whole).sum := by linarith
  exact_mod_cast positive

-- Weights that are divided by a common amount keep their shares, unless they are all so small that their
-- digits are lost.
theorem edge_parts (some : 0 < whole) (few : amounts.length ≤ 2 ^ 50)
    (enough : whole ≤ 2 ^ 1022 * amounts.sum) (count : Nat) :
    |edge (parts amounts whole) count - edge amounts count| ≤ amounts.length / 2 ^ 50 := by
  obtain ⟨one, long⟩ := long_of_enough some enough
  have error := parts_error amounts some
  have error' := parts_error (amounts.take count) some
  have short := length_take_le amounts count
  have part := sum_take_le amounts count
  have positive : (0 : ℚ) < whole := by exact_mod_cast some
  have present := cast_unity_pos
  have one' : (1 : ℚ) ≤ amounts.length := by exact_mod_cast one
  have few' : (amounts.length : ℚ) ≤ 2 ^ 50 := by exact_mod_cast few
  rw [edge, take_parts, edge_scaled amounts count present.ne' positive.ne']
  generalize (unity : ℚ) = unit at *
  have high : ((amounts.take count).sum * unit / whole : ℚ) ≤ amounts.sum * unit / whole := by gcongr
  have wider : ((amounts.take count).length / 2 + (amounts.take count).sum * unit / whole / 2 ^ 53 : ℚ) ≤
      amounts.length / 2 + amounts.sum * unit / whole / 2 ^ 53 := by gcongr
  generalize (amounts.sum * unit / whole : ℚ) = exact at *
  generalize (amounts.length : ℚ) = length at *
  have near := ratio_near (by linarith) (by positivity) high (error'.trans wider) error (by linarith)
  refine near.trans ?_
  have least : length * 2 ^ 52 ≤ length * exact := by gcongr
  have most : exact ≤ length * exact := le_mul_of_one_le_left (by linarith) one'
  rw [← mul_div_assoc, div_le_iff₀ (by linarith)]
  linarith

end Parts

theorem Clear.narrow {room room' draw : ℚ} {index : Nat} (clear : Clear amounts room draw index)
    (less : room' ≤ room) : Clear amounts room' draw index := by
  refine ⟨clear.inside, ?_, ?_⟩
  · intro later
    have above := clear.above later
    linarith
  · intro further
    have below := clear.below further
    linarith

theorem Clear.shifted {amounts' : List Nat} {room shift draw : ℚ} {index : Nat}
    (clear : Clear amounts (room + shift) draw index) (same : amounts'.length = amounts.length)
    (near : ∀ count, |edge amounts' count - edge amounts count| ≤ shift) :
    Clear amounts' room draw index := by
  refine ⟨same ▸ clear.inside, ?_, ?_⟩
  · intro later
    have above := clear.above later
    have near' := (abs_le.mp (near index)).2
    linarith
  · intro further
    have below := clear.below (same ▸ further)
    have near' := (abs_le.mp (near (index + 1))).1
    linarith

-- The room that is enough before and after dividing.
def margin (count : Nat) : ℚ := blur count + count / 2 ^ 50

theorem blur_le_margin (count : Nat) : blur count ≤ margin count :=
  le_add_of_nonneg_right (by positivity)

theorem few_of_clear {amount index : Nat} (small : amount < unity)
    (clear : Clear (weights.map units) (margin weights.length) (portion amount) index) :
    weights.length ≤ 2 ^ 50 := by
  have less : portion amount < 1 := portion_unity ▸ portion_lt_iff.mpr small
  have few := clear.few (portion_nonneg _) less.le (by rw [List.length_map]; exact blur_le_margin _)
  rwa [List.length_map] at few

theorem units_of_weigh (weigh : List.Forall₂ Weighs weights amounts) : weights.map units = amounts :=
  List.right_unique_forall₂' rightUnique_weighs (weigh_units (valid_of_weigh weigh)) weigh

theorem Weighs.eq_unity {x : Float} {a : Nat} (weighs : Weighs x a) (one : x == 1.0) : a = unity :=
  (weighs.beq_iff (.amount one_worth)).mp one

theorem pos_of_sum_pos {whole : Nat} (summed : Summed sum 0 amounts whole) (some : 0 < amounts.sum) :
    0 < whole := by
  refine Nat.pos_of_ne_zero ?_
  rintro rfl
  have nothing : ∀ a ∈ amounts, a = 0 := fun a member => Nat.le_zero.mp (summed.le_total a member)
  rw [List.sum_eq_zero nothing] at some
  exact Nat.lt_irrefl 0 some

-- Some of the weights that are normalized together, which make up at least the least normal part of
-- their total.
structure Among (weights all : List Float) (whole : Nat) : Prop where
  listed : weights.Sublist all
  valid : ∀ w ∈ all, isValid w = true
  worth : IsAmount (total all) whole
  some : 0 < whole
  enough : whole ≤ 2 ^ 1022 * (weights.map units).sum

namespace Among

variable {all : List Float} {whole amount index : Nat}

theorem own_valid (among : Among weights all whole) : ∀ w ∈ weights, isValid w = true :=
  fun w member => among.valid w (among.listed.subset member)

theorem own_total (among : Among weights all whole) :
    ∃ own, 0 < own ∧ own ≤ whole ∧ Summed (total weights) 0 (weights.map units) own := by
  obtain ⟨own, below, worth⟩ := total_sublist among.listed among.valid among.worth
  have summed := total_of_weigh (weigh_units among.own_valid) worth
  refine ⟨own, pos_of_sum_pos summed (Nat.pos_of_ne_zero ?_), below, summed⟩
  intro none
  have enough := among.enough
  rw [none, Nat.mul_zero] at enough
  exact absurd among.some (Nat.not_lt.mpr enough)

theorem within (among : Among weights all whole) : ∀ a ∈ weights.map units, a ≤ whole := by
  obtain ⟨own, _, below, summed⟩ := among.own_total
  exact fun a member => Nat.le_trans (summed.le_total a member) below

theorem divided_weigh (among : Among weights all whole) :
    List.Forall₂ Weighs (weights.map (· / total all)) (parts (weights.map units) whole) :=
  quotients_weigh (weigh_units among.own_valid) among.worth among.some among.within

-- Before dividing, a draw that is clear gives the share it falls into.
theorem indexAt_own (among : Among weights all whole) (drawn : IsAmount draw amount)
    (small : amount < unity)
    (clear : Clear (weights.map units) (margin weights.length) (portion amount) index) :
    indexAt weights draw = Option.some index := by
  obtain ⟨own, some, _, summed⟩ := among.own_total
  exact indexAt_clear among.own_valid summed.worth some drawn small (clear.narrow (blur_le_margin _))

-- And so it does after dividing.
theorem indexAt_divided (among : Among weights all whole) (drawn : IsAmount draw amount)
    (small : amount < unity)
    (clear : Clear (weights.map units) (margin weights.length) (portion amount) index) :
    indexAt (weights.map (· / total all)) draw = Option.some index := by
  have weigh := among.divided_weigh
  have few : (weights.map units).length ≤ 2 ^ 50 := List.length_map units ▸ few_of_clear small clear
  have near := edge_parts among.some few among.enough
  rw [List.length_map] at near
  have moved : Clear (parts (weights.map units) whole) (blur weights.length) (portion amount) index :=
    clear.shifted (List.length_map _) near
  obtain ⟨again, summed⟩ := total_light weigh (parts_light among.some among.within)
  have some := pos_of_sum_pos summed (parts_sum_pos among.some few among.enough)
  refine indexAt_clear (valid_of_weigh weigh) summed.worth some drawn small ?_
  rwa [units_of_weigh weigh, List.length_map]

-- Two weights cannot both become one by dividing.
theorem one_alone (among : Among weights all whole) (few : weights.length ≤ 2 ^ 50)
    (ones : ∀ w ∈ weights.map (· / total all), w == 1.0) : weights.length ≤ 1 := by
  have count : (weights.map units).length = weights.length := List.length_map units
  have same : ∀ a ∈ parts (weights.map units) whole, a = unity := by
    intro a member
    obtain ⟨w, listed, weighs⟩ := exists_weight among.divided_weigh member
    exact weighs.eq_unity (ones w listed)
  have sum : (parts (weights.map units) whole).sum = weights.length * unity := by
    rw [List.sum_eq_card_nsmul _ _ same, smul_eq_mul, parts, List.length_map, count]
  obtain ⟨own, _, below, summed⟩ := among.own_total
  have light := (sum_of_error (count ▸ few) summed.sum_error).2
  have error := (abs_le.mp (parts_error (weights.map units) among.some)).2
  have positive : (0 : ℚ) < whole := by exact_mod_cast among.some
  have below' : (own : ℚ) ≤ whole := by exact_mod_cast below
  have large := two_pow_le_unity (show 80 ≤ 1074 by decide)
  rw [sum, count, Nat.cast_mul] at error
  generalize unity = unit at *
  have large' : (2 : ℚ) ^ 80 ≤ unit := by exact_mod_cast large
  have share : ((weights.map units).sum * unit / whole : ℚ) ≤ unit * (9 / 8) := by
    rw [div_le_iff₀ positive]
    calc ((weights.map units).sum * unit : ℚ) ≤ whole * (9 / 8) * unit := by
          gcongr
          linarith
      _ = unit * (9 / 8) * whole := by ring
  by_contra several
  have two : (2 : ℚ) ≤ weights.length := by exact_mod_cast Nat.not_le.mp several
  have twice : 2 * (unit : ℚ) ≤ weights.length * unit := by gcongr
  have each : (weights.length : ℚ) * 2 ≤ weights.length * unit := by
    gcongr
    linarith
  linarith

end Among

end Chronomata.Weights
