import Chronomata.Proofs.Automaton.Rescaling
import Chronomata.Proofs.Selection.Dividing
import Chronomata.Proofs.Selection.Stakes

-- Where weights count at all, normalizing them leaves a draw its transition unless it is too near to the edge
-- of a share. Where every weight was one, a transition is drawn from then on.
namespace Chronomata.Automaton

open Decimal Text Weights

variable {a b : Automaton} {state : String} {guards : Guards}

theorem rescale_other {t : Transition} (other : t.source ≠ state) : a.rescale state t = t := if_neg other

theorem withEffectiveWeight_self (t : Transition) : t.withEffectiveWeight t.effectiveWeight = t := by
  obtain ⟨_, _, _, _, _, _, weight, chance, _⟩ := t
  cases chance with
  | none => rfl
  | some c =>
    obtain ⟨enabled, _, _⟩ := c
    cases enabled <;> rfl

theorem rescale_close (close : (total (a.outgoingWeights state) - 1.0).abs ≤ tolerance) (t : Transition) :
    a.rescale state t = t := by
  unfold rescale scale
  rw [if_pos close, withEffectiveWeight_self, ite_self]

theorem rescale_id (t : Transition) : (a.rescale state t).id = t.id := (rescale_ends a state t).1

theorem rescale_priority (t : Transition) : (a.rescale state t).priority = t.priority := by
  unfold rescale
  split_ifs
  · rw [(reweighed t _).rest]
  · rfl

theorem group_map {f : Transition → Transition} (kept : ∀ t, (f t).priority = t.priority)
    (transitions : List Transition) : group (transitions.map f) = (group transitions).map f := by
  have same : (transitions.map f).map (·.priority) = transitions.map (·.priority) := by
    rw [List.map_map]
    exact List.map_congr_left fun t _ => kept t
  unfold group leastPriority
  rw [same]
  cases (transitions.map (·.priority)).min? with
  | none => rfl
  | some least =>
    dsimp only
    rw [List.filter_map]
    simp only [Function.comp_def, kept]

theorem candidates_rescaled (other : String) :
    (a.rescaled state).candidates other guards = (a.candidates other guards).map (a.rescale state) := by
  unfold candidates transitionsFrom
  rw [values_rescaled, List.filter_map, List.filter_map]
  simp only [Function.comp_def, (rescale_ends a state _).2.1, rescale_id]

theorem rivals_rescaled (other : String) :
    group ((a.rescaled state).candidates other guards) =
      (group (a.candidates other guards)).map (a.rescale state) := by
  rw [candidates_rescaled, group_map rescale_priority]

-- Where nothing is scaled, the choice is what it was.
theorem select_unscaled {other : String}
    (same : ∀ t ∈ group (a.candidates other guards), a.rescale state t = t) (cycle : UInt64) :
    (a.rescaled state).select other guards cycle = a.select other guards cycle := by
  have rivals : group ((a.rescaled state).candidates other guards) = group (a.candidates other guards) := by
    rw [rivals_rescaled]
    exact (List.map_congr_left same).trans (List.map_id' _)
  unfold select
  rw [rivals]
  rfl

abbrev rivals (a : Automaton) (state : String) (guards : Guards) : List Transition :=
  group (a.candidates state guards)

abbrev rivalWeights (a : Automaton) (state : String) (guards : Guards) : List Float :=
  (a.rivals state guards).map (·.effectiveWeight)

theorem rivals_sublist : (a.rivals state guards).Sublist (a.transitionsFrom state) := by
  have some : (a.candidates state guards).Sublist (a.transitionsFrom state) := List.filter_sublist
  unfold rivals group
  split
  · exact List.filter_sublist.trans some
  · exact List.nil_sublist _

theorem draw_worth (seed : Seed) : IsAmount seed.draw (units seed.draw) ∧ units seed.draw < unity := by
  have worth : IsAmount seed.draw _ := Seed.fraction_worth _
  rw [worth.units]
  exact ⟨worth, Seed.fraction_lt_unity _⟩

theorem rivalWeights_rescaled (far : ¬ (total (a.outgoingWeights state) - 1.0).abs ≤ tolerance) :
    (a.rescaled state).rivalWeights state guards =
      (a.rivalWeights state guards).map (· / total (a.outgoingWeights state)) := by
  rw [rivalWeights, rivals, rivals_rescaled, List.map_map, List.map_map]
  refine List.map_congr_left ?_
  intro t rival
  have leaves := (mem_transitionsFrom.mp (rivals_sublist.subset rival)).2
  simp only [Function.comp_def, rescale, if_pos leaves, t.effectiveWeight_withEffectiveWeight, scale,
    if_neg far]

variable {cycle : UInt64} {whole index : Nat}

-- Where some rival asks for a draw, or there is no choice, the rival at the index that is drawn fires.
theorem select_index
    (decided : (∃ t ∈ a.rivals state guards, ¬ Plain t) ∨ (a.rivals state guards).length ≤ 1)
    (drawn : indexAt (a.rivalWeights state guards) (Seed.draw ⟨a.id, state, cycle⟩) = some index) :
    a.select state guards cycle = (a.rivals state guards)[index]? := by
  by_cases plain : ∀ t ∈ a.rivals state guards, Plain t
  · have alone : (a.rivals state guards).length ≤ 1 := by
      refine decided.resolve_left ?_
      rintro ⟨t, rival, special⟩
      exact special (plain t rival)
    obtain rfl : index = 0 := by
      have inside := indexAt_lt drawn
      rw [List.length_map] at inside
      omega
    rw [select_plain plain, List.head?_eq_getElem?]
  · obtain ⟨t, rival, special⟩ : ∃ t ∈ a.rivals state guards, ¬ Plain t := by simpa using plain
    rw [select_drawn rival special, drawIndex, drawn, Option.bind_some]

theorem rivals_among (sound : Sound a) (some : (total (a.outgoingWeights state) == 0) = false)
    (finite : (total (a.outgoingWeights state)).isFinite)
    (enough : units (total (a.outgoingWeights state)) ≤
      2 ^ 1022 * ((a.rivalWeights state guards).map units).sum) :
    Among (a.rivalWeights state guards) (a.outgoingWeights state)
      (units (total (a.outgoingWeights state))) := by
  have valid := sound.outgoing state
  obtain ⟨whole, summed⟩ := (total_summed (weigh_units valid)).resolve_left (not_isInfinite finite)
  have worth := summed.worth
  rw [worth.units] at enough ⊢
  exact ⟨rivals_sublist.map _, valid, worth, worth.not_beq_zero_iff.mp some, enough⟩

-- After dividing, a draw that is clear of the edges of the exact shares gives the share it falls into.
theorem select_clear (far : ¬ (total (a.outgoingWeights state) - 1.0).abs ≤ tolerance)
    (among : Among (a.rivalWeights state guards) (a.outgoingWeights state) whole)
    (clear : Clear ((a.rivalWeights state guards).map units) (margin (a.rivalWeights state guards).length)
      (portion (units (Seed.draw ⟨a.id, state, cycle⟩))) index) :
    (a.rescaled state).select state guards cycle =
      ((a.rivals state guards)[index]?).map (a.rescale state) := by
  obtain ⟨worth, small⟩ := draw_worth ⟨a.id, state, cycle⟩
  have drawn := among.indexAt_divided worth small clear
  rw [← rivalWeights_rescaled far] at drawn
  rw [← List.getElem?_map, ← rivals_rescaled]
  refine select_index ?_ drawn
  refine or_iff_not_imp_left.mpr ?_
  intro none
  have ones : ∀ w ∈ (a.rescaled state).rivalWeights state guards, w == 1.0 := by
    refine List.forall_mem_map.mpr ?_
    intro t rival
    have plain : Plain t := by
      by_contra special
      exact none ⟨t, rival, special⟩
    exact effectiveWeight_certain plain.certain ▸ plain.weight
  have alone := among.one_alone (few_of_clear small clear) (rivalWeights_rescaled far ▸ ones)
  rwa [rivals, rivals_rescaled, List.length_map, ← List.length_map (f := (·.effectiveWeight))]

-- Normalizing changes nothing about other states, nor where the weights were close to one in total or
-- nothing is enabled. Otherwise one of the foremost is drawn, each with its exact share of the draws but for
-- a margin at the edges, and it is the same as before, unless all weights were one: then the first fired.
theorem rescaled_odds (ready : Ready a) (normalized : a.normalizeOutgoing state = .ok b) (guards : Guards)
    (cycle : UInt64) :
    (∀ other, other ≠ state ∨ (total (a.outgoingWeights state) - 1.0).abs ≤ tolerance ∨
        (¬ ∃ t, Enabled a other guards t) →
      b.select other guards cycle = a.select other guards cycle) ∧
      ∃ rivals, InByteOrder rivals ∧ (∀ t, t ∈ rivals ↔ Foremost a state guards t) ∧
        ((∀ t ∈ rivals, Plain t) → a.select state guards cycle = rivals.head?) ∧
        ((total (a.outgoingWeights state)).isFinite →
          units (total (a.outgoingWeights state)) ≤
            2 ^ 1022 * (rivals.map fun t => units t.effectiveWeight).sum →
          ∀ index, Clear (rivals.map fun t => units t.effectiveWeight) (margin rivals.length)
              (portion (units (Seed.draw ⟨a.id, state, cycle⟩))) index →
            (¬ (total (a.outgoingWeights state) - 1.0).abs ≤ tolerance →
              (b.select state guards cycle).map (·.id) = (rivals[index]?).map (·.id)) ∧
            ((∃ t ∈ rivals, ¬ Plain t) ∨ rivals.length = 1 →
              (b.select state guards cycle).map (·.id) = (a.select state guards cycle).map (·.id))) := by
  obtain ⟨valid, some, rfl⟩ := (normalizeOutgoing_eq_ok ready.wellFormed).mp normalized
  have unchanged : ∀ other,
      other ≠ state ∨ (total (a.outgoingWeights state) - 1.0).abs ≤ tolerance ∨
        (¬ ∃ t, Enabled a other guards t) →
      (a.rescaled state).select other guards cycle = a.select other guards cycle := by
    intro other reason
    refine select_unscaled ?_ cycle
    intro t rival
    have foremost := mem_rivals.mp rival
    rcases reason with apart | close | none
    · exact rescale_other (foremost.leaves.symm ▸ apart)
    · exact rescale_close close t
    · exact absurd ⟨t, foremost.toEnabled⟩ none
  refine ⟨unchanged, a.rivals state guards, rivals_inByteOrder ready.wellFormed, fun t => mem_rivals,
    fun plain => select_plain plain, ?_⟩
  intro finite enough index clear
  have amounts : (a.rivals state guards).map (fun t => units t.effectiveWeight) =
      (a.rivalWeights state guards).map units := by
    rw [rivalWeights, List.map_map]
    rfl
  have count : (a.rivals state guards).length = (a.rivalWeights state guards).length :=
    (List.length_map _).symm
  rw [amounts] at enough clear
  rw [count] at clear
  have among := rivals_among ready.sound some finite enough
  have drawn : ¬ (total (a.outgoingWeights state) - 1.0).abs ≤ tolerance →
      ((a.rescaled state).select state guards cycle).map (·.id) =
        ((a.rivals state guards)[index]?).map (·.id) := by
    intro far
    rw [select_clear far among clear, Option.map_map]
    congr 1
    exact funext rescale_id
  refine ⟨drawn, ?_⟩
  intro decided
  by_cases close : (total (a.outgoingWeights state) - 1.0).abs ≤ tolerance
  · rw [unchanged state (.inr (.inl close))]
  · obtain ⟨worth, small⟩ := draw_worth ⟨a.id, state, cycle⟩
    rw [drawn close, select_index (decided.imp_right le_of_eq) (among.indexAt_own worth small clear)]

-- The foremost in the order of their ids are one list.
theorem rivals_unique (wellFormed : WellFormed a) {rivals : List Transition} (ordered : InByteOrder rivals)
    (members : ∀ t, t ∈ rivals ↔ Foremost a state guards t) : rivals = a.rivals state guards := by
  have irreflexive : Std.Irrefl fun s t : Transition => bytes s.id < bytes t.id :=
    ⟨fun t => List.lt_irrefl _⟩
  have antisymmetric : Std.Antisymm fun s t : Transition => bytes s.id < bytes t.id :=
    ⟨fun s t before after => absurd (List.lt_trans before after) (List.lt_irrefl _)⟩
  exact List.Pairwise.eq_of_mem_iff ordered (rivals_inByteOrder wellFormed)
    fun t => (members t).trans mem_rivals.symm

namespace Forked

-- Two ways of weight one, of which the first by id fires until they are normalized.
def even : List (String × Transition) := [way "left" "L" 0 1, way "right" "R" 0 1]

-- Two ways that are one in total but for less than the tolerance, and one more that ranks behind them. The
-- edge between the first two lies before the draw when they are divided, and after it when they are not.
def brimming : List (String × Transition) :=
  [way "left" "L" 0 0.58997322268831, way "right" "R" 0 0.41002677731259, way "up" "S" 1 1]

end Forked

open Forked in
theorem rescaled_odds_even :
    load (definition "1" even) = .ok (automaton "1" even) ∧
      (∃ b, (automaton "1" even).normalizeOutgoing "S" = .ok b ∧
        ((automaton "1" even).select "S" bothHold 8).map (·.id) = some "left" ∧
        (b.select "S" bothHold 8).map (·.id) = some "right") ∧
      load (definition "1" brimming) = .ok (automaton "1" brimming) ∧
      ∃ b, (automaton "1" brimming).normalizeOutgoing "S" = .ok b ∧
        ((automaton "1" brimming).select "S" allHold 8).map (·.id) = some "left" ∧
        (b.select "S" allHold 8).map (·.id) = some "right" := by
  have scaled : (automaton "1" even).normalizeOutgoing "S" =
      .ok ((automaton "1" even).rescaled "S") := by decide +kernel
  have scaled' : (automaton "1" brimming).normalizeOutgoing "S" =
      .ok ((automaton "1" brimming).rescaled "S") := by decide +kernel
  refine ⟨by decide +kernel, ⟨_, scaled, ?_, ?_⟩, by decide +kernel, _, scaled', ?_, ?_⟩
  · decide +kernel
  · decide +kernel
  · decide +kernel
  · decide +kernel

open Forked in
theorem rescaled_odds_forked :
    load (definition "1" early) = .ok (automaton "1" early) ∧
      ∃ b, (automaton "1" early).normalizeOutgoing "S" = .ok b ∧
        (b.select "S" bothHold 8).map (·.id) = some "right" ∧
        (b.select "S" bothHold 8).map (·.id) =
          ((automaton "1" early).select "S" bothHold 8).map (·.id) := by
  have loaded : load (definition "1" early) = .ok (automaton "1" early) := by decide +kernel
  have scaled : (automaton "1" early).normalizeOutgoing "S" =
      .ok ((automaton "1" early).rescaled "S") := by decide +kernel
  have ready := Ready.loaded loaded
  obtain ⟨_, rivals, ordered, members, _, odds⟩ := rescaled_odds ready scaled bothHold 8
  have known : rivals = [(way "left" "L" 0 2).2, (way "right" "R" 0 3).2] := by
    rw [rivals_unique ready.wellFormed ordered members]
    decide +kernel
  subst known
  have clear : Clear
      ([(way "left" "L" 0 2).2, (way "right" "R" 0 3).2].map fun t => units t.effectiveWeight)
      (margin 2) (portion (units (Seed.draw ⟨(automaton "1" early).id, "S", 8⟩))) 1 := by
    refine ⟨by decide, fun _ => ?_, fun further => absurd further (by decide)⟩
    decide +kernel
  have special : ∃ t ∈ [(way "left" "L" 0 2).2, (way "right" "R" 0 3).2], ¬ Plain t := by
    refine ⟨_, List.mem_cons_self, ?_⟩
    intro plain
    exact absurd plain.weight (by decide +kernel)
  obtain ⟨drawn, same⟩ := odds (by decide +kernel) (by decide +kernel) 1 clear
  exact ⟨loaded, _, scaled, drawn (by decide +kernel), same (.inl special)⟩

end Chronomata.Automaton
