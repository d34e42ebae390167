import Chronomata.Proofs.Definition.Validity
import Mathlib.Data.List.Count

-- What is reported of a definition that is not valid: each violation once, in whatever order the entries
-- stand. A key that several entries have is one violation for each of them after the first.
namespace Chronomata

namespace Definition

-- An id that is stated although it is not the key.
def Misnamed (key id : String) : Prop := id ≠ "" ∧ id ≠ key

instance (key id : String) : Decidable (Misnamed key id) := inferInstanceAs (Decidable (_ ∧ _))

-- How many declarations read so in the states under a key: a text may stand among what a state keeps, what it
-- reads and what it writes, and counts in each of them.
def stated (states : List (String × State)) (key text : String) : Nat :=
  let named := states.filter (·.1 = key)
  (named.flatMap (·.2.locals.toList)).count text + (named.flatMap (·.2.inputs.toList)).count text +
    (named.flatMap (·.2.outputs.toList)).count text

-- How many times a definition does what an issue is about. The order of the entries plays no part.
def violations (d : Definition) : Issue → Nat
  | .missingLocation => if d.header.place = .folder ∧ d.header.location = none then 1 else 0
  | .missingInitialState id => if id = d.initial ∧ id ∉ d.states.map (·.1) then 1 else 0
  | .duplicateState id => (d.states.map (·.1)).count id - 1
  | .stateKeyMismatch key id => d.states.countP fun e => e.1 = key ∧ e.2.id = id ∧ Misnamed key id
  | .reservedState id => if id = errorState then (d.states.map (·.1)).count id else 0
  | .invalidDeclaration key declaration =>
    if Declaration.parse declaration = none then stated d.states key declaration else 0
  | .duplicateTransition id => (d.transitions.map (·.1)).count id - 1
  | .transitionKeyMismatch key id =>
    d.transitions.countP fun e => e.1 = key ∧ e.2.id = id ∧ Misnamed key id
  | .danglingSource key state =>
    d.transitions.countP fun e => e.1 = key ∧ e.2.source = state ∧ state ∉ d.states.map (·.1)
  | .danglingTarget key state =>
    d.transitions.countP fun e => e.1 = key ∧ e.2.target = state ∧ state ∉ d.states.map (·.1)
  | .invalidWeight key weight =>
    d.transitions.countP fun e =>
      e.1 = key ∧ e.2.countedWeight = weight ∧ ¬ (weight.isFinite ∧ 0 < weight)

theorem count_declarations (s : State) (text : String) :
    s.declarations.count text =
      s.locals.toList.count text + s.inputs.toList.count text + s.outputs.toList.count text := by
  rw [State.declarations, List.count_append, List.count_append]

theorem stated_cons (e : String × State) (rest : List (String × State)) (key text : String) :
    stated (e :: rest) key text =
      (if e.1 = key then e.2.declarations.count text else 0) + stated rest key text := by
  by_cases same : e.1 = key
  · have named : (e :: rest).filter (·.1 = key) = e :: rest.filter (·.1 = key) :=
      List.filter_cons_of_pos (decide_eq_true same)
    simp only [stated, named, List.flatMap_cons, List.count_append, if_pos same, count_declarations]
    omega
  · simp [stated, same]

theorem agrees_eq_false {id key : String} : agrees id key = false ↔ Misnamed key id := by
  simp [agrees, Misnamed]

theorem count_demand (holds : Bool) (issue other : Issue) :
    (demand holds issue).count other = if holds = false ∧ issue = other then 1 else 0 := by
  cases holds with
  | true => simp [demand]
  | false => simp [demand, List.count_singleton]

theorem malformed_eq (key : String) (declarations : List String) :
    (declarations.flatMap fun declaration =>
      demand (Declaration.parse declaration).isSome (.invalidDeclaration key declaration)) =
      (declarations.filter (Declaration.parse · = none)).map (Issue.invalidDeclaration key) := by
  induction declarations with
  | nil => rfl
  | cons declaration rest ih =>
    rw [List.flatMap_cons, ih]
    cases parsed : Declaration.parse declaration <;> simp [demand, parsed]

theorem count_malformed (key state declaration : String) (declarations : List String) :
    ((declarations.filter (Declaration.parse · = none)).map (Issue.invalidDeclaration key)).count
        (.invalidDeclaration state declaration) =
      if key = state ∧ Declaration.parse declaration = none then declarations.count declaration
      else 0 := by
  split_ifs with wrong
  · obtain ⟨rfl, malformed⟩ := wrong
    rw [List.count_map_of_injective _ _ fun _ _ same => (Issue.invalidDeclaration.inj same).2]
    exact List.count_filter (by simpa using malformed)
  · refine List.count_eq_zero.mpr ?_
    rintro member
    obtain ⟨found, listed, same⟩ := List.mem_map.mp member
    cases same
    exact wrong ⟨rfl, by simpa using (List.mem_filter.mp listed).2⟩

theorem count_stateIssues (before : List String) (key : String) (s : State) (issue : Issue) :
    (stateIssues before key s).count issue = match issue with
      | .duplicateState id => if key = id ∧ id ∈ before then 1 else 0
      | .stateKeyMismatch place id => if key = place ∧ s.id = id ∧ Misnamed place id then 1 else 0
      | .reservedState id => if key = id ∧ id = errorState then 1 else 0
      | .invalidDeclaration place declaration =>
        if key = place ∧ Declaration.parse declaration = none then s.declarations.count declaration
        else 0
      | _ => 0 := by
  rw [stateIssues, malformed_eq]
  simp only [List.count_append, count_demand]
  cases issue with
  | invalidDeclaration place declaration => simp [count_malformed]
  | duplicateState id | stateKeyMismatch place id | reservedState id =>
    rw [List.count_eq_zero.mpr (by simp)]
    simp [agrees_eq_false]
    grind
  | _ => simp [List.count_eq_zero]

theorem count_transitionIssues (states before : List String) (key : String) (t : Transition)
    (issue : Issue) :
    (transitionIssues states before key t).count issue = match issue with
      | .duplicateTransition id => if key = id ∧ id ∈ before then 1 else 0
      | .transitionKeyMismatch place id =>
        if key = place ∧ t.id = id ∧ Misnamed place id then 1 else 0
      | .danglingSource place state =>
        if key = place ∧ t.source = state ∧ state ∉ states then 1 else 0
      | .danglingTarget place state =>
        if key = place ∧ t.target = state ∧ state ∉ states then 1 else 0
      | .invalidWeight place weight =>
        if key = place ∧ t.countedWeight = weight ∧ ¬ (weight.isFinite ∧ 0 < weight) then 1 else 0
      | _ => 0 := by
  rw [transitionIssues, t.effectiveWeight_eq]
  simp only [List.count_append, count_demand]
  cases issue with
  | duplicateTransition | transitionKeyMismatch | danglingSource | danglingTarget | invalidWeight =>
    simp [agrees_eq_false, isWeight]
    grind
  | _ => simp

-- A key that was met before is one time too many, and is met from then on.
theorem count_repeated (before keys : List String) (key id : String) :
    ((if key = id ∧ id ∈ before then 1 else 0) + (keys.count id - if id ∈ key :: before then 0 else 1)) =
      (key :: keys).count id - if id ∈ before then 0 else 1 := by
  simp only [List.count_cons, List.mem_cons, beq_iff_eq]
  grind

theorem count_statesIssues (before : List String) (entries : List (String × State)) (issue : Issue) :
    (statesIssues before entries).count issue = match issue with
      | .duplicateState id => (entries.map (·.1)).count id - if id ∈ before then 0 else 1
      | .stateKeyMismatch key id =>
        entries.countP fun e => e.1 = key ∧ e.2.id = id ∧ Misnamed key id
      | .reservedState id => if id = errorState then (entries.map (·.1)).count id else 0
      | .invalidDeclaration key declaration =>
        if Declaration.parse declaration = none then stated entries key declaration else 0
      | _ => 0 := by
  induction entries generalizing before with
  | nil => cases issue <;> simp [statesIssues, stated]
  | cons e rest ih =>
    rw [statesIssues, List.count_append, count_stateIssues, ih]
    cases issue with
    | duplicateState id => exact count_repeated before _ e.1 id
    | stateKeyMismatch key id =>
      simp only [List.countP_cons, decide_eq_true_eq]
      exact Nat.add_comm _ _
    | reservedState id =>
      simp only [List.map_cons, List.count_cons, beq_iff_eq]
      grind
    | invalidDeclaration key declaration =>
      simp only [stated_cons]
      split_ifs <;> simp_all
    | _ => rfl

theorem count_transitionsIssues (states before : List String) (entries : List (String × Transition))
    (issue : Issue) :
    (transitionsIssues states before entries).count issue = match issue with
      | .duplicateTransition id => (entries.map (·.1)).count id - if id ∈ before then 0 else 1
      | .transitionKeyMismatch key id =>
        entries.countP fun e => e.1 = key ∧ e.2.id = id ∧ Misnamed key id
      | .danglingSource key state =>
        entries.countP fun e => e.1 = key ∧ e.2.source = state ∧ state ∉ states
      | .danglingTarget key state =>
        entries.countP fun e => e.1 = key ∧ e.2.target = state ∧ state ∉ states
      | .invalidWeight key weight =>
        entries.countP fun e =>
          e.1 = key ∧ e.2.countedWeight = weight ∧ ¬ (weight.isFinite ∧ 0 < weight)
      | _ => 0 := by
  induction entries generalizing before with
  | nil => cases issue <;> simp [transitionsIssues]
  | cons e rest ih =>
    rw [transitionsIssues, List.count_append, count_transitionIssues, ih]
    cases issue with
    | duplicateTransition id => exact count_repeated before _ e.1 id
    | transitionKeyMismatch | danglingSource | danglingTarget | invalidWeight =>
      simp only [List.countP_cons, decide_eq_true_eq]
      exact Nat.add_comm _ _
    | _ => rfl

-- The report holds every violation as often as there is one, and nothing else.
theorem count_issues (d : Definition) (issue : Issue) : d.issues.count issue = d.violations issue := by
  rw [issues, stateKeys, List.count_append, List.count_append, List.count_append, count_demand,
    count_demand, count_statesIssues, count_transitionsIssues]
  cases issue with
  | missingLocation => simp [violations]
  | missingInitialState id =>
    simp only [violations, List.contains_eq_mem, decide_eq_false_iff_not]
    grind
  | danglingSource | danglingTarget => simp only [violations, reduceCtorEq, and_false, if_false, Nat.zero_add]
  | _ => simp [violations]

section Rearranged

variable {d : Definition} {states : List (String × State)} {transitions : List (String × Transition)}

theorem violations_perm (sameStates : states.Perm d.states)
    (sameTransitions : transitions.Perm d.transitions) (issue : Issue) :
    violations { d with states, transitions } issue = d.violations issue := by
  have keys : (states.map (·.1)).Perm (d.states.map (·.1)) := sameStates.map _
  cases issue with
  | invalidDeclaration key declaration =>
    have named := sameStates.filter (·.1 = key)
    simp only [violations, stated, (named.flatMap_right _).count_eq]
  | missingLocation => rfl
  | duplicateState id | reservedState id => simp only [violations, keys.count_eq]
  | stateKeyMismatch key id => simp only [violations, sameStates.countP_eq]
  | duplicateTransition id => simp only [violations, (sameTransitions.map (·.1)).count_eq]
  | transitionKeyMismatch key id | invalidWeight key weight =>
    simp only [violations, sameTransitions.countP_eq]
  | missingInitialState id => simp only [violations, keys.mem_iff]
  | danglingSource key state | danglingTarget key state =>
    simp only [violations, keys.mem_iff, sameTransitions.countP_eq]

theorem issues_perm (sameStates : states.Perm d.states)
    (sameTransitions : transitions.Perm d.transitions) :
    (issues { d with states, transitions }).Perm d.issues := by
  refine List.perm_iff_count.mpr ?_
  intro issue
  rw [count_issues, count_issues, violations_perm sameStates sameTransitions]

end Rearranged

end Definition

end Chronomata
