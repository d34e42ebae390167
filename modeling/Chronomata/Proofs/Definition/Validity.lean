import Chronomata.Proofs.Automaton.WellFormed
import Mathlib.Data.List.Perm.Basic

-- Valid definitions, said without the report: nothing is wrong with a definition exactly when it is valid.
-- Validity does not depend on the order of the entries, nor on whether they repeat their keys as ids.
namespace Chronomata

-- The weight that counts: that of a chance that is enabled, and else the transition's own.
def Transition.countedWeight (t : Transition) : Float :=
  match t.chance with
  | some ⟨true, weight, _⟩ => weight
  | _ => t.weight

theorem Transition.effectiveWeight_eq (t : Transition) : t.effectiveWeight = t.countedWeight := by
  unfold effectiveWeight countedWeight
  cases t.chance with
  | none => rfl
  | some c =>
    obtain ⟨enabled, _, _⟩ := c
    cases enabled <;> rfl

namespace Definition

-- What is asked of one entry for a state, whatever stands around it.
structure StateFits (key : String) (s : State) : Prop where
  named : s.id = "" ∨ s.id = key
  free : key ≠ errorState
  locals : ∀ text ∈ s.locals.toList, (Declaration.parse text).isSome
  inputs : ∀ text ∈ s.inputs.toList, (Declaration.parse text).isSome
  outputs : ∀ text ∈ s.outputs.toList, (Declaration.parse text).isSome

-- What is asked of one entry for a transition, the states being known.
structure TransitionFits (states : List String) (key : String) (t : Transition) : Prop where
  named : t.id = "" ∨ t.id = key
  source : t.source ∈ states
  target : t.target ∈ states
  weight : t.countedWeight.isFinite ∧ 0 < t.countedWeight

structure Valid (d : Definition) : Prop where
  located : (d.header.place != .folder || d.header.location.isSome) = true
  statesDistinct : (d.states.map (·.1)).Nodup
  states : ∀ e ∈ d.states, StateFits e.1 e.2
  initial : d.initial ∈ d.states.map (·.1)
  transitionsDistinct : (d.transitions.map (·.1)).Nodup
  transitions : ∀ e ∈ d.transitions, TransitionFits (d.states.map (·.1)) e.1 e.2

theorem agrees_iff {id key : String} : agrees id key ↔ id = "" ∨ id = key := by
  simp [agrees]

theorem isWeight_iff_isFinite {weight : Float} : isWeight weight ↔ weight.isFinite ∧ 0 < weight := by
  simp [isWeight]

-- A state declares what it keeps, what it reads and what it writes, and nothing else.
theorem mem_declarations {s : State} {text : String} :
    text ∈ s.declarations ↔ text ∈ s.locals.toList ∨ text ∈ s.inputs.toList ∨ text ∈ s.outputs.toList := by
  simp [State.declarations]

theorem StateFits.declared {key : String} {s : State} (fits : StateFits key s) :
    ∀ text ∈ s.declarations, (Declaration.parse text).isSome := by
  intro text stated
  rcases mem_declarations.mp stated with kept | read | written
  · exact fits.locals text kept
  · exact fits.inputs text read
  · exact fits.outputs text written

theorem stateIssues_eq_nil {before : List String} {key : String} {s : State} :
    stateIssues before key s = [] ↔ key ∉ before ∧ StateFits key s := by
  simp only [stateIssues, List.append_eq_nil_iff, demand_eq_nil, List.flatMap_eq_nil_iff,
    Bool.not_eq_true', List.contains_eq_mem, decide_eq_false_iff_not, bne_iff_ne]
  constructor
  · rintro ⟨⟨⟨fresh, named⟩, free⟩, declared⟩
    refine ⟨fresh, agrees_iff.mp named, free, ?_, ?_, ?_⟩
    · exact fun text kept => declared text (mem_declarations.mpr (.inl kept))
    · exact fun text read => declared text (mem_declarations.mpr (.inr (.inl read)))
    · exact fun text written => declared text (mem_declarations.mpr (.inr (.inr written)))
  · rintro ⟨fresh, fits⟩
    exact ⟨⟨⟨fresh, agrees_iff.mpr fits.named⟩, fits.free⟩, fits.declared⟩

theorem transitionIssues_eq_nil {states before : List String} {key : String} {t : Transition} :
    transitionIssues states before key t = [] ↔ key ∉ before ∧ TransitionFits states key t := by
  simp only [transitionIssues, List.append_eq_nil_iff, demand_eq_nil, Bool.not_eq_true',
    List.contains_eq_mem, decide_eq_false_iff_not, decide_eq_true_eq]
  constructor
  · rintro ⟨⟨⟨⟨fresh, named⟩, source⟩, target⟩, weight⟩
    rw [isWeight_iff_isFinite, t.effectiveWeight_eq] at weight
    exact ⟨fresh, agrees_iff.mp named, source, target, weight⟩
  · rintro ⟨fresh, named, source, target, weight⟩
    rw [← t.effectiveWeight_eq, ← isWeight_iff_isFinite] at weight
    exact ⟨⟨⟨⟨fresh, agrees_iff.mpr named⟩, source⟩, target⟩, weight⟩

-- Both reports go through the entries with the keys that they have met. When each entry is checked on its
-- own apart from that, no key is met twice.
theorem distinct_cons {α : Type} {fits : String → α → Prop} {before : List String} {key : String}
    {value : α} {rest : List (String × α)} :
    ((key ∉ before ∧ fits key value) ∧ (rest.map (·.1)).Nodup ∧
        (∀ e ∈ rest, e.1 ∉ key :: before) ∧ ∀ e ∈ rest, fits e.1 e.2) ↔
      (((key, value) :: rest).map (·.1)).Nodup ∧ (∀ e ∈ (key, value) :: rest, e.1 ∉ before) ∧
        ∀ e ∈ (key, value) :: rest, fits e.1 e.2 := by
  simp only [List.map_cons, List.nodup_cons, List.forall_mem_cons]
  simp only [List.mem_cons, not_or]
  constructor
  · rintro ⟨⟨fresh, fit⟩, distinct, apart, fits⟩
    refine ⟨⟨?_, distinct⟩, ⟨fresh, fun e member => (apart e member).2⟩, fit, fits⟩
    intro repeated
    obtain ⟨e, member, same⟩ := List.mem_map.mp repeated
    exact (apart e member).1 same
  · rintro ⟨⟨alone, distinct⟩, ⟨fresh, apart⟩, fit, fits⟩
    refine ⟨⟨fresh, fit⟩, distinct, fun e member => ⟨?_, apart e member⟩, fits⟩
    intro same
    exact alone (List.mem_map.mpr ⟨e, member, same⟩)

theorem statesIssues_eq_nil {before : List String} {entries : List (String × State)} :
    statesIssues before entries = [] ↔ (entries.map (·.1)).Nodup ∧ (∀ e ∈ entries, e.1 ∉ before) ∧
      ∀ e ∈ entries, StateFits e.1 e.2 := by
  induction entries generalizing before with
  | nil => simp [statesIssues]
  | cons head rest ih =>
    obtain ⟨key, s⟩ := head
    rw [statesIssues, List.append_eq_nil_iff, stateIssues_eq_nil, ih]
    exact distinct_cons

theorem transitionsIssues_eq_nil {states before : List String}
    {entries : List (String × Transition)} :
    transitionsIssues states before entries = [] ↔ (entries.map (·.1)).Nodup ∧
      (∀ e ∈ entries, e.1 ∉ before) ∧ ∀ e ∈ entries, TransitionFits states e.1 e.2 := by
  induction entries generalizing before with
  | nil => simp [transitionsIssues]
  | cons head rest ih =>
    obtain ⟨key, t⟩ := head
    rw [transitionsIssues, List.append_eq_nil_iff, transitionIssues_eq_nil, ih]
    exact distinct_cons

theorem issues_eq_nil {d : Definition} : d.issues = [] ↔ Valid d := by
  simp only [issues, List.append_eq_nil_iff, demand_eq_nil, statesIssues_eq_nil,
    transitionsIssues_eq_nil, List.contains_iff_mem, List.not_mem_nil, not_false_eq_true,
    implies_true, true_and]
  constructor
  · rintro ⟨⟨⟨located, statesDistinct, states⟩, initial⟩, transitionsDistinct, transitions⟩
    exact ⟨located, statesDistinct, states, initial, transitionsDistinct, transitions⟩
  · rintro ⟨located, statesDistinct, states, initial, transitionsDistinct, transitions⟩
    exact ⟨⟨⟨located, statesDistinct, states⟩, initial⟩, transitionsDistinct, transitions⟩

end Definition

-- The name of an entry: its id, or its key for an id that was left empty.
def nameOr (key id : String) : String := if id.isEmpty then key else id

def State.named (e : String × State) : String × State :=
  (e.1, { e.2 with id := nameOr e.1 e.2.id })

def Transition.named (e : String × Transition) : String × Transition :=
  (e.1, { e.2 with id := nameOr e.1 e.2.id })

theorem nameOr_nameOr (key id : String) : nameOr key (nameOr key id) = nameOr key id := by
  by_cases empty : id.isEmpty
  · simp [nameOr, empty]
  · simp [nameOr, empty]

theorem State.named_named (e : String × State) : named (named e) = named e := by
  simp only [named, nameOr_nameOr]

theorem Transition.named_named (e : String × Transition) : named (named e) = named e := by
  simp only [named, nameOr_nameOr]

namespace Definition

theorem nameOr_eq {id key : String} (named : id = "" ∨ id = key) : nameOr key id = key := by
  rcases named with rfl | rfl
  · rfl
  · exact ite_self id

theorem StateFits.named_eq {e : String × State} (fits : StateFits e.1 e.2) :
    State.named e = (e.1, { e.2 with id := e.1 }) := by
  rw [State.named, nameOr_eq fits.named]

theorem TransitionFits.named_eq {states : List String} {e : String × Transition}
    (fits : TransitionFits states e.1 e.2) : Transition.named e = (e.1, { e.2 with id := e.1 }) := by
  rw [Transition.named, nameOr_eq fits.named]

theorem StateFits.renamed {e : String × State} (fits : StateFits e.1 e.2) :
    StateFits (State.named e).1 (State.named e).2 := by
  rw [fits.named_eq]
  exact ⟨.inr rfl, fits.free, fits.locals, fits.inputs, fits.outputs⟩

theorem TransitionFits.renamed {states : List String} {e : String × Transition}
    (fits : TransitionFits states e.1 e.2) :
    TransitionFits states (Transition.named e).1 (Transition.named e).2 := by
  rw [fits.named_eq]
  exact ⟨.inr rfl, fits.source, fits.target, fits.weight⟩

-- Naming the entries leaves their keys distinct.
theorem Valid.namedStatesDistinct {d : Definition} (valid : Valid d) :
    ((d.states.map State.named).map (·.1)).Nodup := by
  rw [List.map_map]
  exact valid.statesDistinct

theorem Valid.namedTransitionsDistinct {d : Definition} (valid : Valid d) :
    ((d.transitions.map Transition.named).map (·.1)).Nodup := by
  rw [List.map_map]
  exact valid.transitionsDistinct

-- The same entries in another order, each with its name, make a valid definition again.
theorem Valid.rearranged {d : Definition} (valid : Valid d) {states : List (String × State)}
    {transitions : List (String × Transition)} (sameStates : states.Perm (d.states.map State.named))
    (sameTransitions : transitions.Perm (d.transitions.map Transition.named)) :
    Valid { d with states, transitions } := by
  have stateKeys : (states.map (·.1)).Perm d.stateKeys := by
    have keys := sameStates.map (·.1)
    rwa [List.map_map] at keys
  have transitionKeys : (transitions.map (·.1)).Perm (d.transitions.map (·.1)) := by
    have keys := sameTransitions.map (·.1)
    rwa [List.map_map] at keys
  refine ⟨valid.located, stateKeys.nodup_iff.mpr valid.statesDistinct, ?_,
    stateKeys.mem_iff.mpr valid.initial, transitionKeys.nodup_iff.mpr valid.transitionsDistinct, ?_⟩
  · intro e member
    obtain ⟨stated, there, rfl⟩ := List.mem_map.mp (sameStates.mem_iff.mp member)
    exact (valid.states stated there).renamed
  · intro e member
    obtain ⟨stated, there, rfl⟩ := List.mem_map.mp (sameTransitions.mem_iff.mp member)
    obtain ⟨named, source, target, weight⟩ := (valid.transitions stated there).renamed
    exact ⟨named, stateKeys.mem_iff.mpr source, stateKeys.mem_iff.mpr target, weight⟩

end Definition

end Chronomata
