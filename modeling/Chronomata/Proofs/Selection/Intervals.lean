import Chronomata.Proofs.Selection.Shares

-- A member that has any weight owns the draws from the sum of the normalized weights before it up to the sum
-- with its own, and the last one owns all that are left.
namespace Chronomata.Weights

open Decimal

variable {weights normalized : List Float} {draw draw' : Float} {index : Nat}

-- A draw is zero at least and less than one.
structure IsDraw (draw : Float) : Prop where
  low : 0 ≤ draw
  high : draw < 1

-- The two spellings of one are one float.
theorem one_eq : (1.0 : Float) = 1 := by decide +kernel

theorem isDraw_draw (seed : Seed) : IsDraw seed.draw := by
  have worth : IsAmount seed.draw _ := Seed.fraction_worth _
  refine ⟨(zero_worth.le_iff worth).mpr (Nat.zero_le _), ?_⟩
  rw [← one_eq]
  exact (worth.lt_iff one_worth).mpr (Seed.fraction_lt_unity _)

theorem IsDraw.le_one (drawn : IsDraw draw) : draw ≤ 1 := by
  have high := drawn.high
  rw [Decimal.lt_iff] at high
  rw [Decimal.le_iff, high]
  rfl

theorem IsDraw.valid (drawn : IsDraw draw) : isValid draw = true := by
  have low := drawn.low
  have bounded : ¬ IsInfinite draw := fun endless => endless.not_le (by decide +kernel) drawn.le_one
  rw [Decimal.le_iff, zero_unpack] at low
  refine isValid_iff.mpr ?_
  cases shape : draw.toModel.unpack with
  | notANumber => rw [shape] at low; cases low
  | infinity sign =>
    cases sign with
    | negative => rw [shape] at low; cases low
    | positive => exact absurd shape bounded
  | zero sign =>
    cases sign with
    | negative => exact ⟨0, .nothing shape⟩
    | positive => exact ⟨0, .amount (by rw [IsAmount, shape]; exact .zero)⟩
  | finite sign mantissa exponent some =>
    cases sign with
    | negative => rw [shape] at low; cases low
    | positive =>
      have form := (unpack_canonical shape).1
      exact ⟨_, .amount (by rw [IsAmount, shape]; exact .finite form)⟩

theorem IsDraw.weighs (drawn : IsDraw draw) : Weighs draw (units draw) := weighs_units drawn.valid

theorem IsDraw.le_refl (drawn : IsDraw draw) : draw ≤ draw :=
  (drawn.weighs.le_iff drawn.weighs).mpr (Nat.le_refl _)

-- What normalizing gives: valid weights with a finite total.
structure Normal (weights : List Float) : Prop where
  valid : ∀ w ∈ weights, isValid w = true
  finite : IsAmount (total weights) (units (total weights))

theorem normal_of_amount {amount : Nat} (valid : ∀ w ∈ weights, isValid w = true)
    (worth : IsAmount (total weights) amount) : Normal weights :=
  ⟨valid, worth.units.symm ▸ worth⟩

theorem normal_of_normalize (scaled : normalize weights = .ok normalized) : Normal normalized := by
  obtain ⟨valid, some, rfl⟩ := normalize_eq_ok.mp scaled
  have weigh := weigh_units valid
  unfold scale
  split_ifs with close
  · rw [List.map_id']
    rcases total_summed weigh with endless | ⟨whole, summed⟩
    · exact absurd close (infinite_not_close endless)
    · exact normal_of_amount valid summed.worth
  · rcases total_summed weigh with endless | ⟨whole, summed⟩
    · have vanished := quotients_vanish weigh endless
      have nothing := foldl_nothing vanished (by simp) zero_worth
      rw [← zero_eq] at nothing
      exact normal_of_amount (valid_of_weigh vanished) nothing
    · have positive := summed.worth.not_beq_zero_iff.mp some
      obtain ⟨_, _, again⟩ := quotients_summed weigh summed positive
      have divided := quotients_weigh weigh summed.worth positive summed.le_total
      exact normal_of_amount (valid_of_weigh divided) again.worth

theorem total_take_succ {w : Float} (present : weights[index]? = some w) :
    total (weights.take (index + 1)) = total (weights.take index) + w := by
  rw [total, List.take_add_one, present, Option.toList_some, List.foldl_concat, total]

-- The sum of the weights before an index, in least units.
def reach (weights : List Float) (index : Nat) : Nat := units (total (weights.take index))

namespace Normal

theorem take (normal : Normal weights) (count : Nat) : Normal (weights.take count) := by
  obtain ⟨smaller, _, worth⟩ := total_sublist (List.take_sublist count weights) normal.valid normal.finite
  exact normal_of_amount (fun w member => normal.valid w (List.mem_of_mem_take member)) worth

theorem reach_mono (normal : Normal weights) {count further : Nat} (ordered : count ≤ further) :
    reach weights count ≤ reach weights further := by
  have part := (List.take_prefix_take_left ordered (l := weights)).sublist
  obtain ⟨smaller, less, worth⟩ :=
    total_sublist part (normal.take further).valid (normal.take further).finite
  rwa [reach, worth.units]

-- Only a weight that is more than nothing makes the sum grow.
theorem pos_of_reach_lt (normal : Normal weights)
    (grows : reach weights index < reach weights (index + 1)) :
    ∃ w, weights[index]? = some w ∧ 0 < w := by
  cases present : weights[index]? with
  | none =>
    rw [reach, reach, List.take_add_one, present, Option.toList_none, List.append_nil] at grows
    exact absurd grows (Nat.lt_irrefl _)
  | some w =>
    refine ⟨w, rfl, ?_⟩
    have valid := normal.valid w (List.mem_of_getElem? present)
    by_contra light
    have nothing : units w = 0 := (beq_zero_iff valid).mp ((not_zero_lt_iff valid).mp light)
    have weighs := weighs_units valid
    rw [nothing] at weighs
    have same := weighs.add_nothing (normal.take index).finite
    rw [← total_take_succ present] at same
    rw [reach, reach, same.units] at grows
    exact absurd grows (Nat.lt_irrefl _)

theorem lt_iff (normal : Normal weights) (drawn : IsDraw draw) (count : Nat) :
    draw < total (weights.take count) ↔ units draw < reach weights count :=
  drawn.weighs.lt_iff (.amount (normal.take count).finite)

theorem le_iff (normal : Normal weights) (drawn : IsDraw draw) (count : Nat) :
    total (weights.take count) ≤ draw ↔ reach weights count ≤ units draw :=
  Weighs.le_iff (.amount (normal.take count).finite) drawn.weighs

-- A draw that is below none of the sums up to an index has reached that index.
theorem reached (normal : Normal weights) (drawn : IsDraw draw)
    (above : ∀ before < index, ¬ draw < total (weights.take (before + 1))) :
    total (weights.take index) ≤ draw := by
  cases index with
  | zero =>
    rw [List.take_zero, total, List.foldl_nil, zero_eq]
    exact drawn.low
  | succ before =>
    rw [normal.le_iff drawn, ← Nat.not_lt, ← normal.lt_iff drawn]
    exact above before (Nat.lt_succ_self before)

end Normal

-- The draws that select a member: from the sum of the weights before it up to the sum with its own. The last
-- member that has any weight takes all draws from there on, for rounding can leave the whole sum below one.
structure Owns (weights : List Float) (index : Nat) (draw : Float) : Prop where
  present : ∃ w, weights[index]? = some w ∧ 0 < w
  reached : total (weights.take index) ≤ draw
  passed : draw < total (weights.take (index + 1)) ∨
    ∀ {later w}, weights[later]? = some w → 0 < w → later ≤ index

-- A later member's interval holds no smaller draw.
theorem Owns.le {index' : Nat} (normal : Normal weights) (drawn : IsDraw draw) (drawn' : IsDraw draw')
    (ordered : draw ≤ draw') (owns : Owns weights index draw) (owns' : Owns weights index' draw') :
    index ≤ index' := by
  rcases owns'.passed with below | last
  · by_contra later
    have start := (normal.le_iff drawn index).mp owns.reached
    have stop := (normal.lt_iff drawn' (index' + 1)).mp below
    have order := (drawn.weighs.le_iff drawn'.weighs).mp ordered
    have steps : reach weights (index' + 1) ≤ reach weights index :=
      normal.reach_mono (Nat.lt_of_not_le later)
    omega
  · obtain ⟨w, there, heavy⟩ := owns.present
    exact last there heavy

section Drawn

variable (scaled : normalize weights = .ok normalized) (drawn : IsDraw draw)

include scaled drawn

theorem owns_of_indexAt (found : indexAt weights draw = some index) : Owns normalized index draw := by
  have normal := normal_of_normalize scaled
  rw [indexAt_eq scaled] at found
  rcases Option.or_eq_some_iff.mp found with first | ⟨none, last⟩
  · obtain ⟨_, below, above⟩ := indexBelow_eq_some.mp first
    have reached : total (normalized.take index) ≤ draw := normal.reached drawn above
    have start := (normal.le_iff drawn index).mp reached
    have stop := (normal.lt_iff drawn (index + 1)).mp below
    exact ⟨normal.pos_of_reach_lt (Nat.lt_of_le_of_lt start stop), reached, .inl below⟩
  · obtain ⟨present, last⟩ := lastPositive_eq_some last
    have above := indexBelow_eq_none.mp none
    refine ⟨present, ?_, .inr last⟩
    obtain ⟨w, there, _⟩ := present
    have inside := (List.getElem?_eq_some_iff.mp there).1
    exact normal.reached drawn fun before earlier => above before (Nat.lt_trans earlier inside)

theorem indexAt_eq_none_of_ok : indexAt weights draw = none ↔ ∀ w ∈ normalized, w == 0 := by
  have valid := (normal_of_normalize scaled).valid
  constructor
  · intro none w member
    rw [indexAt_eq scaled, Option.or_eq_none_iff] at none
    exact (not_zero_lt_iff (valid w member)).mp (lastPositive_eq_none.mp none.2 w member)
  · intro nothing
    refine Option.eq_none_iff_forall_ne_some.mpr ?_
    intro index found
    obtain ⟨w, there, heavy⟩ := (owns_of_indexAt scaled drawn found).present
    have member := List.mem_of_getElem? there
    exact (not_zero_lt_iff (valid w member)).mpr (nothing w member) heavy

-- Some member is drawn unless all are without weight, and the order of the intervals tells which.
theorem indexAt_eq_some_iff : indexAt weights draw = some index ↔ Owns normalized index draw := by
  refine ⟨owns_of_indexAt scaled drawn, ?_⟩
  intro owns
  have normal := normal_of_normalize scaled
  cases found : indexAt weights draw with
  | none =>
    obtain ⟨w, there, heavy⟩ := owns.present
    have member := List.mem_of_getElem? there
    have nothing := (indexAt_eq_none_of_ok scaled drawn).mp found w member
    exact absurd heavy ((not_zero_lt_iff (normal.valid w member)).mpr nothing)
  | some other =>
    have owns' := owns_of_indexAt scaled drawn found
    have forth := owns.le normal drawn drawn drawn.le_refl owns'
    have back := owns'.le normal drawn drawn drawn.le_refl owns
    rw [Nat.le_antisymm back forth]

end Drawn

theorem indexAt_eq_none (drawn : IsDraw draw) : indexAt weights draw = none ↔
    (∃ cause, normalize weights = .error cause) ∨
      ∃ normalized, normalize weights = .ok normalized ∧ ∀ w ∈ normalized, w == 0 := by
  cases scaled : normalize weights with
  | error cause =>
    have failed : indexAt weights draw = none := by simp only [indexAt, scaled]
    exact iff_of_true failed (.inl ⟨cause, rfl⟩)
  | ok normalized => simp [indexAt_eq_none_of_ok scaled drawn]

-- Normalizing gives no weight to a member that had none.
theorem indexAt_pos (drawn : IsDraw draw) (found : indexAt weights draw = some index) :
    ∃ w, weights[index]? = some w ∧ 0 < w := by
  obtain ⟨normalized, scaled⟩ := exists_normalized found
  obtain ⟨q, there, heavy⟩ := (owns_of_indexAt scaled drawn found).present
  obtain ⟨valid, counted, rfl⟩ := normalize_eq_ok.mp scaled
  rw [List.getElem?_map] at there
  obtain ⟨w, present, rfl⟩ := Option.map_eq_some_iff.mp there
  have member := List.mem_of_getElem? present
  exact ⟨w, present, ((scale_pos_iff valid counted member).mp heavy).1⟩

theorem indexAt_mono {index' : Nat} (drawn : IsDraw draw) (drawn' : IsDraw draw') (ordered : draw ≤ draw')
    (found : indexAt weights draw = some index) (found' : indexAt weights draw' = some index') :
    index ≤ index' := by
  obtain ⟨normalized, scaled⟩ := exists_normalized found
  have owns := owns_of_indexAt scaled drawn found
  have owns' := owns_of_indexAt scaled drawn' found'
  exact owns.le (normal_of_normalize scaled) drawn drawn' ordered owns'

-- Whether anything is drawn does not depend on the draw.
theorem indexAt_between {between last : Float} (drawn : IsDraw draw) (drawn' : IsDraw between)
    (drawn'' : IsDraw last) (after : draw ≤ between) (before : between ≤ last)
    (found : indexAt weights draw = some index) (found' : indexAt weights last = some index) :
    indexAt weights between = some index := by
  cases middle : indexAt weights between with
  | none =>
    have nothing := (indexAt_eq_none drawn).mpr ((indexAt_eq_none drawn').mp middle)
    rw [found] at nothing
    cases nothing
  | some other =>
    have low := indexAt_mono drawn drawn' after found middle
    have high := indexAt_mono drawn' drawn'' before middle found'
    rw [Nat.le_antisymm high low]

-- A draw by weight gives nothing only when there is nothing to draw, and else a member with some weight. Each
-- member has one interval of draws, which the running sums bound, and they stand in the members' order.
theorem drawn_exact (weights : List Float) :
    (∀ seed : Seed, IsDraw seed.draw ∧ drawIndex weights seed = indexAt weights seed.draw) ∧
      (∀ {draw}, IsDraw draw →
        (indexAt weights draw = none ↔
          (∃ cause, normalize weights = .error cause) ∨
            ∃ normalized, normalize weights = .ok normalized ∧ ∀ w ∈ normalized, w == 0) ∧
        ∀ {index}, indexAt weights draw = some index → ∃ w, weights[index]? = some w ∧ 0 < w) ∧
      (∀ {draw draw' index index'}, IsDraw draw → IsDraw draw' → draw ≤ draw' →
        indexAt weights draw = some index → indexAt weights draw' = some index' → index ≤ index') ∧
      (∀ {first between last index}, IsDraw first → IsDraw between → IsDraw last →
        first ≤ between → between ≤ last → indexAt weights first = some index →
          indexAt weights last = some index → indexAt weights between = some index) ∧
      ∀ {normalized draw index}, normalize weights = .ok normalized → IsDraw draw →
        (indexAt weights draw = some index ↔ Owns normalized index draw) := by
  refine ⟨?_, ?_, indexAt_mono, indexAt_between, indexAt_eq_some_iff⟩
  · intro seed
    exact ⟨isDraw_draw seed, rfl⟩
  · intro draw drawn
    exact ⟨indexAt_eq_none drawn, indexAt_pos drawn⟩

-- Ten tenths between two weights of nothing.
def tenths : List Float := 0 :: List.replicate 10 0.1 ++ [0]

-- The tenths add up to a little less than one, so the greatest draw is past all sums; it selects the last of
-- them, not the weight of nothing behind it.
theorem drawn_exact_tenths :
    IsDraw 0.9 ∧ IsDraw 0.95 ∧ IsDraw 0.9999999999999999 ∧ indexAt tenths 0.9 = some 10 ∧
      indexAt tenths 0.95 = some 10 ∧ indexAt tenths 0.9999999999999999 = some 10 ∧
      ∃ w, tenths[10]? = some w ∧ 0 < w := by
  obtain ⟨_, drawn, _, between, _⟩ := drawn_exact tenths
  have first : IsDraw 0.9 := ⟨by decide +kernel, by decide +kernel⟩
  have middle : IsDraw 0.95 := ⟨by decide +kernel, by decide +kernel⟩
  have last : IsDraw 0.9999999999999999 := ⟨by decide +kernel, by decide +kernel⟩
  have low : indexAt tenths 0.9 = some 10 := by decide +kernel
  have high : indexAt tenths 0.9999999999999999 = some 10 := by decide +kernel
  have inside := between first middle last (by decide +kernel) (by decide +kernel) low high
  exact ⟨first, middle, last, low, inside, high, (drawn last).2 high⟩

end Chronomata.Weights
