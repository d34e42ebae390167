import Chronomata.Proofs.Selection.Choice

-- What the choice of a transition depends on: the automaton's id, the state, the cycle, and the id, the weight
-- that counts and the kind of each foremost transition.
namespace Chronomata

open Decimal Text Weights

-- What the choice takes from a transition.
structure Stake where
  id : String
  isProbabilistic : Bool
  weight : Float
  deriving DecidableEq

def Transition.stake (t : Transition) : Stake := ⟨t.id, t.isProbabilistic, t.effectiveWeight⟩

namespace Stake

def isPlain (s : Stake) : Bool := s.weight == 1.0 && !s.isProbabilistic

-- The choice among stakes that stand in the order of their ids.
def choose (stakes : List Stake) (seed : Seed) : Option Stake :=
  if stakes.all isPlain then stakes.head?
  else (drawIndex (stakes.map (·.weight)) seed).bind (stakes[·]?)

end Stake

namespace Automaton

variable {a b : Automaton} {state : String} {guards guards' : Guards}

theorem effectiveWeight_certain {t : Transition} (certain : t.isProbabilistic = false) :
    t.effectiveWeight = t.weight := by
  unfold Transition.isProbabilistic at certain
  unfold Transition.effectiveWeight
  cases chance : t.chance with
  | none => rfl
  | some c =>
    rw [chance] at certain
    exact if_neg (Bool.eq_false_iff.mp certain)

theorem plain_iff_stake {t : Transition} : Plain t ↔ t.stake.isPlain := by
  simp only [Stake.isPlain, Transition.stake, Bool.and_eq_true, Bool.not_eq_true']
  constructor
  · rintro ⟨one, certain⟩
    exact ⟨(effectiveWeight_certain certain).symm ▸ one, certain⟩
  · rintro ⟨one, certain⟩
    exact ⟨effectiveWeight_certain certain ▸ one, certain⟩

-- The choice is made among the stakes of the foremost.
theorem select_stake (cycle : UInt64) :
    (a.select state guards cycle).map (·.stake) =
      Stake.choose ((group (a.candidates state guards)).map (·.stake)) ⟨a.id, state, cycle⟩ := by
  have weights : ∀ transitions : List Transition,
      (transitions.map (·.stake)).map (·.weight) = transitions.map (·.effectiveWeight) :=
    fun transitions => List.map_map
  by_cases plain : ∀ t ∈ group (a.candidates state guards), Plain t
  · have all : ((group (a.candidates state guards)).map (·.stake)).all (·.isPlain) := by
      rw [List.all_map, List.all_eq_true]
      exact fun t rival => plain_iff_stake.mp (plain t rival)
    rw [select_plain plain, Stake.choose, if_pos all, List.head?_map]
  · obtain ⟨t, rival, special⟩ : ∃ t ∈ group (a.candidates state guards), ¬ Plain t := by
      simpa using plain
    have some : ¬ ((group (a.candidates state guards)).map (·.stake)).all (·.isPlain) := by
      rw [List.all_map, List.all_eq_true]
      exact fun all => special (plain_iff_stake.mpr (all t rival))
    rw [select_drawn rival special, Stake.choose, if_neg some, weights]
    simp only [Option.map_bind, Function.comp_def, List.getElem?_map]

theorem stakes_increasing (wellFormed : WellFormed a) :
    ((group (a.candidates state guards)).map (·.stake)).Pairwise
      fun s t => compare s.id t.id = .lt :=
  List.pairwise_map.mpr ((rivals_inByteOrder wellFormed).imp compare_eq_lt.mpr)

theorem mem_stakes {stake : Stake} :
    stake ∈ (group (a.candidates state guards)).map (·.stake) ↔
      ∃ t, Foremost a state guards t ∧ t.stake = stake := by
  simp only [List.mem_map, mem_rivals]

-- Of two automata with one id, whatever else is different about them, the same transition is chosen when
-- the foremost have the same stakes.
theorem chosen_exact (ready : Ready a) (ready' : Ready b) (sameId : a.id = b.id)
    (same : ∀ stake, (∃ t, Foremost a state guards t ∧ t.stake = stake) ↔
      ∃ t, Foremost b state guards' t ∧ t.stake = stake) (cycle : UInt64) :
    (a.select state guards cycle).map (·.id) = (b.select state guards' cycle).map (·.id) := by
  have stakes : (group (a.candidates state guards)).map (·.stake) =
      (group (b.candidates state guards')).map (·.stake) := by
    refine eq_of_increasing (·.id) (stakes_increasing ready.wellFormed)
      (stakes_increasing ready'.wellFormed) ?_
    intro stake
    exact mem_stakes.trans ((same stake).trans mem_stakes.symm)
  have chosen : (a.select state guards cycle).map (·.stake) =
      (b.select state guards' cycle).map (·.stake) := by
    rw [select_stake, select_stake, stakes, sameId]
  have ids : ∀ choice : Option Transition, choice.map (·.id) = (choice.map (·.stake)).map (·.id) :=
    fun choice => by cases choice <;> rfl
  rw [ids, chosen, ← ids]

-- Two automata of one name. The second ranks its ways before, states them in another order, leads elsewhere
-- and knows one more way, which comes after them.
namespace Forked

def way (key target : String) (priority : Int32) (weight : Float) : String × Transition :=
  (key, ⟨key, "S", target, none, none, priority, weight, none, none⟩)

def places : List (String × State) := ["S", "L", "R"].map fun id => (id, State.plain id)

def definition (version : String) (ways : List (String × Transition)) : Definition where
  version := version
  header := ⟨"fork", .inline, "lua", "", [], none⟩
  initial := "S"
  states := places
  transitions := ways
  inputs := SortedMap.empty
  outputs := SortedMap.empty

def automaton (version : String) (ways : List (String × Transition)) : Automaton where
  version := version
  header := ⟨"fork", .inline, "lua", "", [], none⟩
  initial := "S"
  states := .ofEntries places
  transitions := .ofEntries ways
  inputs := SortedMap.empty
  outputs := SortedMap.empty
  isDirty := false

def early : List (String × Transition) := [way "left" "L" 0 2, way "right" "R" 0 3]

def late : List (String × Transition) :=
  [way "right" "S" (-7) 3, way "ahead" "S" 5 4, way "left" "R" (-7) 2]

def bothHold : Guards := .ofEntries [("left", true), ("right", true)]

def allHold : Guards := .ofEntries [("ahead", true), ("left", true), ("right", true), ("up", true)]

end Forked

open Forked in
theorem chosen_exact_forked :
    load (definition "1" early) = .ok (automaton "1" early) ∧
      load (definition "2" late) = .ok (automaton "2" late) ∧
      (∃ t, Foremost (automaton "1" early) "S" bothHold t ∧ ¬ Plain t) ∧
      ∀ cycle, ((automaton "1" early).select "S" bothHold cycle).map (·.id) =
        ((automaton "2" late).select "S" allHold cycle).map (·.id) := by
  have loaded : load (definition "1" early) = .ok (automaton "1" early) := by decide +kernel
  have loaded' : load (definition "2" late) = .ok (automaton "2" late) := by decide +kernel
  have left : (way "left" "L" 0 2).2 ∈ group ((automaton "1" early).candidates "S" bothHold) := by
    decide +kernel
  have stakes : (group ((automaton "1" early).candidates "S" bothHold)).map (·.stake) =
      (group ((automaton "2" late).candidates "S" allHold)).map (·.stake) := by
    decide +kernel
  refine ⟨loaded, loaded', ⟨_, mem_rivals.mp left, ?_⟩, ?_⟩
  · intro plain
    exact absurd plain.weight (by decide +kernel)
  · refine chosen_exact (.loaded loaded) (.loaded loaded') rfl ?_
    intro stake
    rw [← mem_stakes, ← mem_stakes, stakes]

end Automaton

end Chronomata
