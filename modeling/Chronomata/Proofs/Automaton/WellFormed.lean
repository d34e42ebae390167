import Chronomata.Proofs.Sorted.Map
import Chronomata.Selection

-- Automata that are ready to run: every state that a transition or the first tick refers to is declared,
-- and none is the error state. Loading gives such an automaton, and normalizing weights keeps it one.
namespace Chronomata

namespace Definition

theorem demand_eq_nil {holds : Bool} {issue : Issue} : demand holds issue = [] ↔ holds = true := by
  cases holds <;> simp [demand]

theorem not_reserved_of_statesIssues {before : List String} {entries : List (String × State)}
    (none : statesIssues before entries = []) : errorState ∉ entries.map (·.1) := by
  induction entries generalizing before with
  | nil => simp
  | cons head rest ih =>
    obtain ⟨key, s⟩ := head
    obtain ⟨first, later⟩ := List.append_eq_nil_iff.mp none
    simp only [stateIssues, List.append_eq_nil_iff, demand_eq_nil] at first
    have other : key ≠ errorState := by simpa using first.1.2
    simp only [List.map_cons, List.mem_cons, not_or]
    exact ⟨other.symm, ih later⟩

-- What a definition without issues says of each transition.
structure Grounded (states : List String) (t : Transition) : Prop where
  source : t.source ∈ states
  target : t.target ∈ states
  weight : isWeight t.effectiveWeight

theorem grounded_of_transitionsIssues {states before : List String}
    {entries : List (String × Transition)} (none : transitionsIssues states before entries = []) :
    ∀ e ∈ entries, Grounded states e.2 := by
  induction entries generalizing before with
  | nil => simp
  | cons head rest ih =>
    obtain ⟨key, t⟩ := head
    obtain ⟨first, later⟩ := List.append_eq_nil_iff.mp none
    simp only [transitionIssues, List.append_eq_nil_iff, demand_eq_nil, List.contains_iff_mem]
      at first
    obtain ⟨⟨⟨_, source⟩, target⟩, weight⟩ := first
    intro e member
    rcases List.mem_cons.mp member with rfl | there
    · exact ⟨source, target, weight⟩
    · exact ih later e there

end Definition

namespace Automaton

structure WellFormed (a : Automaton) : Prop where
  identified : ∀ {key t}, a.transitions.get? key = some t → t.id = key
  initial : a.initial ∈ a.states.keys
  source : ∀ {key t}, a.transitions.get? key = some t → t.source ∈ a.states.keys
  target : ∀ {key t}, a.transitions.get? key = some t → t.target ∈ a.states.keys
  reserved : errorState ∉ a.states.keys

theorem load_eq_ok {d : Definition} {a : Automaton} (loaded : load d = .ok a) :
    d.issues = [] ∧ a.initial = d.initial ∧
      a.states = .ofEntries (d.states.map fun e => (e.1, { e.2 with id := e.1 })) ∧
      a.transitions = .ofEntries (d.transitions.map fun e => (e.1, { e.2 with id := e.1 })) := by
  unfold load at loaded
  split at loaded
  · rename_i none
    cases loaded
    exact ⟨none, rfl, rfl, rfl⟩
  · cases loaded

-- Each transition of a loaded automaton is one of the definition, under its key.
theorem loaded_transition {d : Definition} {a : Automaton} (loaded : load d = .ok a) {key : String}
    {t : Transition} (found : a.transitions.get? key = some t) :
    ∃ stated, (key, stated) ∈ d.transitions ∧ t = { stated with id := key } := by
  obtain ⟨_, _, _, transitions⟩ := load_eq_ok loaded
  rw [transitions] at found
  obtain ⟨⟨key', stated⟩, member, same⟩ := List.mem_map.mp (SortedMap.get?_ofEntries found)
  cases same
  exact ⟨stated, member, rfl⟩

theorem loaded_state_keys {d : Definition} {a : Automaton} (loaded : load d = .ok a) {key : String} :
    key ∈ a.states.keys ↔ key ∈ d.stateKeys := by
  obtain ⟨_, _, states, _⟩ := load_eq_ok loaded
  rw [states, SortedMap.mem_keys_ofEntries]
  simp [Definition.stateKeys, List.map_map, Function.comp_def]

theorem loaded_grounded {d : Definition} {a : Automaton} (loaded : load d = .ok a) :
    ∀ e ∈ d.transitions, Definition.Grounded d.stateKeys e.2 := by
  obtain ⟨none, _⟩ := load_eq_ok loaded
  exact Definition.grounded_of_transitionsIssues (List.append_eq_nil_iff.mp none).2

theorem load_wellFormed {d : Definition} {a : Automaton} (loaded : load d = .ok a) :
    WellFormed a := by
  obtain ⟨none, initial, _⟩ := load_eq_ok loaded
  obtain ⟨⟨⟨_, states⟩, start⟩, _⟩ : ((_ ∧ Definition.statesIssues [] d.states = []) ∧ _) ∧ _ := by
    simpa only [Definition.issues, List.append_eq_nil_iff] using none
  refine ⟨?_, ?_, ?_, ?_, ?_⟩
  · intro key t found
    obtain ⟨stated, _, rfl⟩ := loaded_transition loaded found
    rfl
  · rw [loaded_state_keys loaded, initial]
    exact List.contains_iff_mem.mp (Definition.demand_eq_nil.mp start)
  · intro key t found
    obtain ⟨stated, member, rfl⟩ := loaded_transition loaded found
    exact (loaded_state_keys loaded).mpr (loaded_grounded loaded _ member).source
  · intro key t found
    obtain ⟨stated, member, rfl⟩ := loaded_transition loaded found
    exact (loaded_state_keys loaded).mpr (loaded_grounded loaded _ member).target
  · rw [loaded_state_keys loaded]
    exact Definition.not_reserved_of_statesIssues states

-- Weights are checked when a definition is loaded; normalizing may change them later.
theorem loaded_weight {d : Definition} {a : Automaton} (loaded : load d = .ok a) {key : String}
    {t : Transition} (found : a.transitions.get? key = some t) :
    Definition.isWeight t.effectiveWeight := by
  obtain ⟨stated, member, rfl⟩ := loaded_transition loaded found
  exact (loaded_grounded loaded _ member).weight

-- A new weight moves no end of a transition.
theorem withEffectiveWeight_ends (t : Transition) (weight : Float) :
    (t.withEffectiveWeight weight).id = t.id ∧ (t.withEffectiveWeight weight).source = t.source ∧
      (t.withEffectiveWeight weight).target = t.target := by
  unfold Transition.withEffectiveWeight
  split
  · split <;> exact ⟨rfl, rfl, rfl⟩
  · exact ⟨rfl, rfl, rfl⟩

theorem withWeight_wellFormed {a : Automaton} (wellFormed : WellFormed a) (id : String)
    (weight : Float) : WellFormed (a.withWeight id weight) := by
  have traced : ∀ {key t}, (a.withWeight id weight).transitions.get? key = some t →
      ∃ before, a.transitions.get? key = some before ∧ t.id = before.id ∧
        t.source = before.source ∧ t.target = before.target := by
    intro key t found
    by_cases same : key = id
    · subst same
      rw [withWeight, SortedMap.get?_adjust_self] at found
      obtain ⟨before, there, rfl⟩ := Option.map_eq_some_iff.mp found
      exact ⟨before, there, withEffectiveWeight_ends before weight⟩
    · rw [withWeight, SortedMap.get?_adjust_ne _ same] at found
      exact ⟨t, found, rfl, rfl, rfl⟩
  refine ⟨?_, wellFormed.initial, ?_, ?_, wellFormed.reserved⟩
  · intro key t found
    obtain ⟨before, there, same, _, _⟩ := traced found
    exact same.trans (wellFormed.identified there)
  · intro key t found
    obtain ⟨before, there, _, same, _⟩ := traced found
    exact same ▸ wellFormed.source there
  · intro key t found
    obtain ⟨before, there, _, _, same⟩ := traced found
    exact same ▸ wellFormed.target there

-- The automata that a program can come to hold.
inductive Ready : Automaton → Prop where
  | loaded {d : Definition} {a : Automaton} (loaded : load d = .ok a) : Ready a
  | normalized {a b : Automaton} (ready : Ready a) {state : String}
      (normalized : a.normalizeOutgoing state = .ok b) : Ready b
  | clean {a : Automaton} (ready : Ready a) : Ready a.markClean

theorem foldl_withWeight_wellFormed (weights : List (Transition × Float)) {a : Automaton}
    (wellFormed : WellFormed a) :
    WellFormed (weights.foldl (fun a (t, weight) => a.withWeight t.id weight) a) := by
  induction weights generalizing a with
  | nil => exact wellFormed
  | cons head rest ih => exact ih (withWeight_wellFormed wellFormed head.1.id head.2)

theorem Ready.wellFormed {a : Automaton} (ready : Ready a) : WellFormed a := by
  induction ready with
  | loaded loaded => exact load_wellFormed loaded
  | @normalized a b _ state normalized ih =>
    unfold normalizeOutgoing at normalized
    dsimp only at normalized
    cases scaled : Weights.normalize ((a.transitionsFrom state).map (·.effectiveWeight)) with
    | error cause => rw [scaled] at normalized; cases normalized
    | ok weights =>
      rw [scaled] at normalized
      cases normalized
      exact foldl_withWeight_wellFormed _ ih
  | clean _ ih => exact ⟨ih.identified, ih.initial, ih.source, ih.target, ih.reserved⟩

end Automaton

end Chronomata
