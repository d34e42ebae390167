import Chronomata.Proofs.Automaton.WellFormed
import Chronomata.Proofs.Selection.Draw
import Chronomata.Proofs.Text.Bytes
import Mathlib.Data.List.Sort

-- Which transition fires: one of the foremost, the first by id when no draw is needed. When the weights
-- of the foremost add up to infinity, none fires although some are enabled.
namespace Chronomata.Automaton

open Decimal Text Weights

-- A transition that leaves the state and whose guard holds.
structure Enabled (a : Automaton) (state : String) (guards : Guards) (t : Transition) : Prop where
  declared : t ∈ a.transitions.values
  leaves : t.source = state
  holds : guards.get? t.id = some true

-- An enabled transition that no enabled transition precedes in priority.
structure Foremost (a : Automaton) (state : String) (guards : Guards) (t : Transition) : Prop
    extends Enabled a state guards t where
  least : ∀ {other}, Enabled a state guards other → t.priority ≤ other.priority

variable {a : Automaton} {state : String} {guards : Guards}

theorem mem_candidates {t : Transition} :
    t ∈ a.candidates state guards ↔ Enabled a state guards t := by
  simp only [candidates, transitionsFrom, List.mem_filter, beq_iff_eq, Option.getD_eq_iff,
    Bool.false_eq_true, and_false, or_false]
  exact ⟨fun ⟨⟨declared, leaves⟩, holds⟩ => ⟨declared, leaves, holds⟩,
    fun ⟨declared, leaves, holds⟩ => ⟨⟨declared, leaves⟩, holds⟩⟩

theorem mem_group {transitions : List Transition} {t : Transition} :
    t ∈ group transitions ↔ t ∈ transitions ∧ ∀ other ∈ transitions, t.priority ≤ other.priority := by
  unfold group leastPriority
  cases found : (transitions.map (·.priority)).min? with
  | none =>
    have none : transitions = [] := by simpa using found
    simp [none]
  | some least =>
    obtain ⟨listed, below⟩ := List.min?_eq_some_iff.mp found
    obtain ⟨first, member, rfl⟩ := List.mem_map.mp listed
    simp only [List.mem_filter, beq_iff_eq]
    constructor
    · rintro ⟨there, same⟩
      refine ⟨there, ?_⟩
      intro other otherMember
      rw [same]
      exact below _ (List.mem_map_of_mem otherMember)
    · rintro ⟨there, least⟩
      exact ⟨there, Int32.le_antisymm (least first member) (below _ (List.mem_map_of_mem there))⟩

theorem mem_rivals {t : Transition} :
    t ∈ group (a.candidates state guards) ↔ Foremost a state guards t := by
  simp only [mem_group, mem_candidates]
  exact ⟨fun ⟨enabled, least⟩ => ⟨enabled, least _⟩, fun f => ⟨f.toEnabled, fun _ => f.least⟩⟩

-- Some enabled transition is foremost.
theorem rivals_eq_nil :
    group (a.candidates state guards) = [] ↔ ¬ ∃ t, Enabled a state guards t := by
  simp only [← mem_candidates]
  generalize a.candidates state guards = transitions
  constructor
  · rintro none ⟨t, member⟩
    have any : transitions.map (·.priority) ≠ [] := by
      simpa using List.ne_nil_of_mem member
    obtain ⟨least, found⟩ := Option.ne_none_iff_exists'.mp (mt List.min?_eq_none_iff.mp any)
    obtain ⟨listed, below⟩ := List.min?_eq_some_iff.mp found
    obtain ⟨first, there, rfl⟩ := List.mem_map.mp listed
    have rival : first ∈ group transitions :=
      mem_group.mpr ⟨there, fun other member => below _ (List.mem_map_of_mem member)⟩
    rw [none] at rival
    cases rival
  · intro none
    refine List.eq_nil_iff_forall_not_mem.mpr ?_
    intro t rival
    exact none ⟨t, (mem_group.mp rival).1⟩

-- Rivals stand in the order of the bytes of their ids.
abbrev InByteOrder (transitions : List Transition) : Prop :=
  transitions.Pairwise fun s t => bytes s.id < bytes t.id

theorem rivals_inByteOrder (wellFormed : WellFormed a) :
    InByteOrder (group (a.candidates state guards)) := by
  have declared : InByteOrder a.transitions.values := by
    refine List.pairwise_map.mpr (a.transitions.increasing.imp_of_mem ?_)
    rintro ⟨key, s⟩ ⟨key', t⟩ listed listed' before
    rw [wellFormed.identified (SortedMap.mem_entries.mp listed),
      wellFormed.identified (SortedMap.mem_entries.mp listed')]
    exact compare_eq_lt.mp before
  have candidates : InByteOrder (a.candidates state guards) := (declared.filter _).filter _
  unfold group
  split
  · exact candidates.filter _
  · exact .nil

-- A transition that asks for no draw.
structure Plain (t : Transition) : Prop where
  weight : t.weight == 1.0
  certain : t.isProbabilistic = false

theorem isPlain_iff {transitions : List Transition} :
    isPlain transitions ↔ ∀ t ∈ transitions, Plain t := by
  simp only [isPlain, List.all_eq_true, Bool.and_eq_true, Bool.not_eq_true']
  exact ⟨fun all t member => ⟨(all t member).1, (all t member).2⟩,
    fun all t member => ⟨(all t member).weight, (all t member).certain⟩⟩

theorem rivals_allPositive {d : Definition} (loaded : load d = .ok a) :
    AllPositive ((group (a.candidates state guards)).map (·.effectiveWeight)) := by
  intro w member
  obtain ⟨t, rival, rfl⟩ := List.mem_map.mp member
  obtain ⟨key, found⟩ := SortedMap.mem_values.mp (mem_rivals.mp rival).declared
  have checked := loaded_weight loaded found
  simp only [Definition.isWeight, Bool.and_eq_true, decide_eq_true_eq] at checked
  exact finite_positive_iff.mp checked

theorem select_mem {cycle : UInt64} {t : Transition}
    (chosen : a.select state guards cycle = some t) : t ∈ group (a.candidates state guards) := by
  unfold select at chosen
  dsimp only at chosen
  split_ifs at chosen
  · exact List.mem_of_mem_head? chosen
  · obtain ⟨index, _, found⟩ := Option.bind_eq_some_iff.mp chosen
    exact List.mem_of_getElem? found

theorem select_plain {cycle : UInt64} (plain : ∀ t ∈ group (a.candidates state guards), Plain t) :
    a.select state guards cycle = (group (a.candidates state guards)).head? := by
  unfold select
  dsimp only
  rw [if_pos (isPlain_iff.mpr plain)]
  split_ifs with none
  · rw [List.isEmpty_iff.mp none]
    rfl
  · rfl

theorem select_drawn {cycle : UInt64} {t : Transition}
    (rival : t ∈ group (a.candidates state guards)) (special : ¬ Plain t) :
    a.select state guards cycle =
      (drawIndex ((group (a.candidates state guards)).map (·.effectiveWeight))
        ⟨a.id, state, cycle⟩).bind ((group (a.candidates state guards))[·]?) := by
  have drawn : ¬ isPlain (group (a.candidates state guards)) :=
    fun plain => special (isPlain_iff.mp plain t rival)
  unfold select
  dsimp only
  rw [if_neg (by simpa using List.ne_nil_of_mem rival), if_neg drawn]
  rfl

-- The drawn index is one of the weights, so only the draw itself can fail.
theorem getElem?_drawIndex {transitions : List Transition} {seed : Seed} :
    (drawIndex (transitions.map (·.effectiveWeight)) seed).bind (transitions[·]?) = none ↔
      drawIndex (transitions.map (·.effectiveWeight)) seed = none := by
  cases found : drawIndex (transitions.map (·.effectiveWeight)) seed with
  | none => simp
  | some index =>
    have inside : index < transitions.length := by simpa using indexAt_lt found
    simp [inside]

theorem select_eq_none {d : Definition} (loaded : load d = .ok a) (cycle : UInt64) :
    a.select state guards cycle = none ↔
      (¬ ∃ t, Enabled a state guards t) ∨
        (∃ t, Foremost a state guards t ∧ ¬ Plain t) ∧
          (total ((group (a.candidates state guards)).map (·.effectiveWeight))).isFinite = false := by
  by_cases plain : ∀ t ∈ group (a.candidates state guards), Plain t
  · rw [select_plain plain, List.head?_eq_none_iff, rivals_eq_nil]
    refine ⟨.inl, ?_⟩
    rintro (none | ⟨⟨t, rival, special⟩, _⟩)
    · exact none
    · exact absurd (plain t (mem_rivals.mpr rival)) special
  · obtain ⟨t, rival, special⟩ : ∃ t ∈ group (a.candidates state guards), ¬ Plain t := by
      simpa using plain
    have foremost := mem_rivals.mp rival
    rw [select_drawn rival special, getElem?_drawIndex,
      drawIndex_eq_none (rivals_allPositive loaded) (by simpa using List.ne_nil_of_mem rival)]
    constructor
    · intro endless
      exact .inr ⟨⟨t, foremost, special⟩, endless⟩
    · rintro (none | ⟨_, endless⟩)
      · exact absurd ⟨t, foremost.toEnabled⟩ none
      · exact endless

-- The first rival in the order of the bytes of the ids has the least id.
theorem head_least {rivals : List Transition} (ordered : InByteOrder rivals) {t other : Transition}
    (first : rivals.head? = some t) (member : other ∈ rivals) : bytes t.id ≤ bytes other.id := by
  obtain ⟨rest, rfl⟩ := List.head?_eq_some_iff.mp first
  rcases List.mem_cons.mp member with rfl | later
  · exact List.le_refl _
  · exact List.le_of_lt ((List.pairwise_cons.mp ordered).1 other later)

-- A draw is needed when some foremost transition is not plain, and it gives nothing exactly when the
-- weights of the foremost, added in the order of their ids, are no longer finite.
theorem select_exact {d : Definition} (loaded : load d = .ok a) (state : String) (guards : Guards)
    (cycle : UInt64) :
    ∃ rivals, InByteOrder rivals ∧ (∀ t, t ∈ rivals ↔ Foremost a state guards t) ∧
      (a.select state guards cycle = none ↔
        (¬ ∃ t, Enabled a state guards t) ∨
          (∃ t, Foremost a state guards t ∧ ¬ Plain t) ∧
            (total (rivals.map (·.effectiveWeight))).isFinite = false) ∧
      ∀ t, a.select state guards cycle = some t →
        Foremost a state guards t ∧
          ((∀ rival, Foremost a state guards rival → Plain rival) →
            ∀ rival, Foremost a state guards rival → bytes t.id ≤ bytes rival.id) := by
  have ordered : InByteOrder (group (a.candidates state guards)) :=
    rivals_inByteOrder (load_wellFormed loaded)
  refine ⟨group (a.candidates state guards), ordered, fun t => mem_rivals, select_eq_none loaded cycle,
    ?_⟩
  intro t chosen
  refine ⟨mem_rivals.mp (select_mem chosen), ?_⟩
  intro plain rival foremost
  rw [select_plain fun other member => plain other (mem_rivals.mp member)] at chosen
  exact head_least ordered chosen (mem_rivals.mpr foremost)

-- Two transitions that leave one state, with weights whose sum no float can hold.
namespace Overflowing

def way (key target : String) : String × Transition :=
  (key, ⟨key, "S", target, none, none, 0, 1.7e308, none, none⟩)

def ways : List (String × Transition) := [way "left" "L", way "right" "R"]

def places : List (String × State) := ["S", "L", "R"].map fun id => (id, State.plain id)

def definition : Definition where
  version := "1"
  header := ⟨"fork", .inline, "lua", "", [], none⟩
  initial := "S"
  states := places
  transitions := ways
  inputs := SortedMap.empty
  outputs := SortedMap.empty

def automaton : Automaton where
  version := "1"
  header := ⟨"fork", .inline, "lua", "", [], none⟩
  initial := "S"
  states := .ofEntries places
  transitions := .ofEntries ways
  inputs := SortedMap.empty
  outputs := SortedMap.empty
  isDirty := false

def bothHold : Guards := .ofEntries [("left", true), ("right", true)]

end Overflowing

open Overflowing in
theorem select_exact_overflowing :
    load definition = .ok automaton ∧ (∃ t, Enabled automaton "S" bothHold t) ∧
      automaton.select "S" bothHold 0 = none := by
  have loaded : load definition = .ok automaton := by decide +kernel
  obtain ⟨rivals, ordered, members, none, _⟩ := select_exact loaded "S" bothHold 0
  have irreflexive : Std.Irrefl fun s t : Transition => bytes s.id < bytes t.id :=
    ⟨fun t => List.lt_irrefl _⟩
  have antisymmetric : Std.Antisymm fun s t : Transition => bytes s.id < bytes t.id :=
    ⟨fun s t before after => absurd (List.lt_trans before after) (List.lt_irrefl _)⟩
  have same : rivals = group (automaton.candidates "S" bothHold) :=
    List.Pairwise.eq_of_mem_iff ordered (rivals_inByteOrder (load_wellFormed loaded))
      fun t => (members t).trans mem_rivals.symm
  have left : (way "left" "L").2 ∈ group (automaton.candidates "S" bothHold) := by decide +kernel
  have endless : (total ((group (automaton.candidates "S" bothHold)).map
      (·.effectiveWeight))).isFinite = false := by
    decide +kernel
  have heavy : ((way "left" "L").2.weight == 1.0) = false := by decide +kernel
  have foremost := mem_rivals.mp left
  refine ⟨loaded, ⟨_, foremost.toEnabled⟩, none.mpr (.inr ⟨⟨_, foremost, ?_⟩, same ▸ endless⟩)⟩
  intro plain
  rw [plain.weight] at heavy
  cases heavy

end Chronomata.Automaton
