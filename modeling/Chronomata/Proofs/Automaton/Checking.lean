import Chronomata.Proofs.Automaton.Loading
import Chronomata.Proofs.Definition.Report

-- Loading as a check: what is valid loads, and of anything else each violation is reported once. The order
-- of the entries changes neither the automaton nor, but for its order, the report.
namespace Chronomata

namespace Automaton

open Definition

theorem load_eq_error {d : Definition} {issues : List Issue} :
    load d = .error issues ↔ d.issues = issues ∧ issues ≠ [] := by
  unfold load
  cases found : d.issues with
  | nil => simp
  | cons first rest =>
    rw [Except.error.injEq]
    refine ⟨?_, And.left⟩
    rintro rfl
    exact ⟨rfl, List.cons_ne_nil first rest⟩

section Rearranged

variable {d : Definition} {states : List (String × State)} {transitions : List (String × Transition)}

theorem load_perm (sameStates : states.Perm d.states) (sameTransitions : transitions.Perm d.transitions)
    {a : Automaton} (loaded : load d = .ok a) : load { d with states, transitions } = .ok a := by
  have valid := valid_of_load loaded
  have fine : Definition.issues { d with states, transitions } = [] := by
    have same := issues_perm sameStates sameTransitions
    rw [issues_eq_nil.mpr valid] at same
    exact same.eq_nil
  rw [load_of_valid (issues_eq_nil.mp fine), ← loaded, load_of_valid valid,
    SortedMap.ofEntries_perm (sameStates.map _) valid.namedStatesDistinct,
    SortedMap.ofEntries_perm (sameTransitions.map _) valid.namedTransitionsDistinct]

end Rearranged

theorem checked_exact (d : Definition) :
    ((∃ a, load d = .ok a) ↔ Valid d) ∧
      (∀ issues, load d = .error issues →
        issues ≠ [] ∧ ∀ issue, issues.count issue = d.violations issue) ∧
      ∀ states transitions, states.Perm d.states → transitions.Perm d.transitions →
        (∀ a, load d = .ok a → load { d with states, transitions } = .ok a) ∧
          ∀ issues, load d = .error issues →
            ∃ issues', load { d with states, transitions } = .error issues' ∧ issues'.Perm issues := by
  refine ⟨(load_eq_ok_iff d).trans issues_eq_nil, ?_, ?_⟩
  · intro issues refused
    obtain ⟨rfl, some⟩ := load_eq_error.mp refused
    exact ⟨some, count_issues d⟩
  · intro states transitions sameStates sameTransitions
    refine ⟨fun a => load_perm sameStates sameTransitions, ?_⟩
    intro issues refused
    obtain ⟨rfl, some⟩ := load_eq_error.mp refused
    have same := issues_perm sameStates sameTransitions
    refine ⟨_, load_eq_error.mpr ⟨rfl, ?_⟩, same⟩
    intro none
    rw [none] at same
    exact some same.symm.eq_nil

-- A key that three states have, one of them with texts that declare nothing, wherever they stand; and more
-- that is wrong with the states and with the ways between them.
def tangled : Definition where
  version := "1"
  header := ⟨"tangle", .folder, "lua", "", [], none⟩
  initial := "start"
  states := [("hall", .plain ""), ("hall", .plain "room"), (errorState, .plain ""),
    ("hall", { State.plain "" with
      locals := .ofList ["speed:float"], inputs := .ofList ["speed:float", ":int"]
      outputs := .ofList ["x:"] })]
  transitions := [("out", { (TransitionDraft.new "").rest with source := "hall", target := "street" }),
    ("fall", { (TransitionDraft.new "").rest with source := "roof", target := "hall", weight := 0 })]
  inputs := .empty
  outputs := .empty

theorem checked_exact_tangled :
    ∃ issues issues', load tangled = .error issues ∧ issues.count (.duplicateState "hall") = 2 ∧
      issues.count (.invalidDeclaration "hall" "speed:float") = 2 ∧
      issues.count (.invalidDeclaration "hall" ":int") = 1 ∧
      issues.count (.invalidDeclaration "hall" "x:") = 1 ∧
      load { tangled with
        states := tangled.states.reverse, transitions := tangled.transitions.reverse } =
        .error issues' ∧ issues'.Perm issues ∧ issues' ≠ issues := by
  have some : tangled.issues ≠ [] := by decide +kernel
  have refused : load tangled = .error tangled.issues := load_eq_error.mpr ⟨rfl, some⟩
  obtain ⟨_, told, moved⟩ := checked_exact tangled
  obtain ⟨issues', refused', same⟩ :=
    (moved _ _ (List.reverse_perm _) (List.reverse_perm _)).2 _ refused
  have counted := (told _ refused).2
  refine ⟨_, issues', refused, (counted _).trans ?_, (counted _).trans ?_, (counted _).trans ?_,
    (counted _).trans ?_, refused', same, ?_⟩
  · decide +kernel
  · decide +kernel
  · decide +kernel
  · decide +kernel
  · rw [← (load_eq_error.mp refused').1]
    decide +kernel

end Automaton

end Chronomata
