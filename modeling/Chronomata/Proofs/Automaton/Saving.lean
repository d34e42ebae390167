import Chronomata.Definition.Draft
import Chronomata.Proofs.Automaton.Loading
import Chronomata.Proofs.Definition.Notation

-- Saving in object notation: an automaton is read from its saved text again exactly when all of its floats are
-- finite. Those of an automaton that was read from object notation always are.
namespace Chronomata

open Source

namespace Decimal

theorem IsInfinite.isInf {x : Float} (endless : IsInfinite x) : x.isInf = true := by
  show Float.Model.UnpackedFloat.isInf x.toModel.unpack = true
  rw [show x.toModel.unpack = .infinity .positive from endless]
  rfl

theorem Literal.toFloat?_finite {l : Literal} {x : Float} (read : l.toFloat? = some x) :
    x.isFinite := by
  unfold Literal.toFloat? at read
  dsimp only at read
  cases ofScientific_rounded l.digits l.exponent with
  | infinite large endless =>
    rw [if_pos endless.isInf] at read
    cases read
  | finite fits worth =>
    obtain ⟨b, exact, _, _⟩ := isAmount_iff.mp worth
    rw [if_neg (by simp [worth.not_isInf])] at read
    cases read
    rw [isFinite_eq]
    split
    · rw [binary?_neg exact]
      rfl
    · rw [exact]
      rfl

end Decimal

section Readers

variable {α : Type} {fits : α → Bool} {read : Json → Option α}

-- A reader that gives nothing that does not fit.
def Confined (fits : α → Bool) (read : Json → Option α) : Prop :=
  ∀ node value, read node = some value → fits value

variable {fields : Fields Json} {name : String}

theorem Confined.get? (confined : Confined fits read) {value : α}
    (found : fields.get? name read = some value) : fits value := by
  obtain ⟨node, _, taken⟩ := Option.bind_eq_some_iff.mp found
  exact confined node value taken

theorem Confined.getD? (confined : Confined fits read) {missing value : α} (default : fits missing)
    (found : fields.getD? name missing read = some value) : fits value := by
  unfold Fields.getD? at found
  split at found
  · exact confined _ value found
  · cases found
    exact default

theorem Confined.optional (confined : Confined fits read) :
    Confined (Option.all fits) (optional? read) := by
  intro node value found
  obtain ⟨absent, _, taken⟩ := Option.bind_eq_some_iff.mp found
  split at taken
  · cases taken
    rfl
  · obtain ⟨v, held, rfl⟩ := Option.map_eq_some_iff.mp taken
    exact confined node v held

theorem mapM_confined {β γ : Type} {g : β → Option γ} {keep : γ → Bool}
    (confined : ∀ {b c}, g b = some c → keep c) {values : List β} {results : List γ}
    (mapped : values.mapM g = some results) : results.all keep := by
  induction values generalizing results with
  | nil =>
    cases mapped
    rfl
  | cons value values ih =>
    rw [List.mapM_cons] at mapped
    obtain ⟨first, taken, mapped⟩ := Option.bind_eq_some_iff.mp mapped
    obtain ⟨rest, others, mapped⟩ := Option.bind_eq_some_iff.mp mapped
    cases mapped
    rw [List.all_cons, confined taken, ih others]
    rfl

theorem Confined.entries (confined : Confined fits read) :
    Confined (fun entries => entries.all fun e => fits e.2) (map? read) := by
  intro node entries found
  obtain ⟨members, _, mapped⟩ := Option.bind_eq_some_iff.mp found
  refine mapM_confined ?_ mapped
  intro member e taken
  obtain ⟨value, held, rfl⟩ := Option.map_eq_some_iff.mp taken
  exact confined member.2 value held

end Readers

theorem Json.float?_confined : Confined Float.isFinite float? := by
  intro node x read
  cases node with
  | number written =>
    obtain ⟨literal, _, value⟩ := Option.bind_eq_some_iff.mp read
    exact literal.toFloat?_finite value
  | _ => cases read

theorem Position.confined : Confined Position.isFinite Position.read? := by
  intro node p read
  simp only [Position.read?, Option.bind_eq_bind, Option.bind_eq_some_iff, Option.some.injEq] at read
  obtain ⟨fields, _, x, across, y, along, rfl⟩ := read
  simp [Position.isFinite, Json.float?_confined.get? across, Json.float?_confined.get? along]

theorem State.confined : Confined State.isFinite State.read? := by
  intro node s read
  simp only [State.read?, Option.bind_eq_bind, Option.bind_eq_some_iff, Option.some.injEq] at read
  obtain ⟨fields, _, _, _, _, _, _, _, _, _, _, _, _, _, _, _, _, _, _, _, position, placed, rfl⟩ := read
  exact Position.confined.optional.getD? rfl placed

theorem Chance.confined : Confined Chance.isFinite Chance.read? := by
  intro node c read
  simp only [Chance.read?, Option.bind_eq_bind, Option.bind_eq_some_iff, Option.some.injEq] at read
  obtain ⟨fields, _, _, _, weight, weighed, _, _, rfl⟩ := read
  exact Json.float?_confined.getD? (by decide +kernel) weighed

theorem FuzzyGuard.confined : Confined FuzzyGuard.isFinite FuzzyGuard.read? := by
  intro node g read
  simp only [FuzzyGuard.read?, Option.bind_eq_bind, Option.bind_eq_some_iff, Option.some.injEq] at read
  obtain ⟨fields, _, _, _, _, _, threshold, limited, rfl⟩ := read
  exact Json.float?_confined.getD? (by decide +kernel) limited

theorem Transition.confined : Confined Transition.isFinite Transition.read? := by
  intro node t read
  simp only [Transition.read?, Option.bind_eq_bind, Option.bind_eq_some_iff, Option.some.injEq] at read
  obtain ⟨fields, _, _, _, _, _, _, _, _, _, _, _, _, _, weight, weighed, chance, drawn, guard, guarded,
    rfl⟩ := read
  have finite : weight.isFinite := Json.float?_confined.getD? (by decide +kernel) weighed
  have chances := Chance.confined.optional.getD? rfl drawn
  have guards := FuzzyGuard.confined.optional.getD? rfl guarded
  simp only [Transition.isFinite, finite, chances, guards]
  rfl

theorem Definition.confined : Confined Definition.isFinite Definition.read? := by
  intro node d read
  simp only [Definition.read?, Option.bind_eq_bind, Option.bind_eq_some_iff, Option.some.injEq] at read
  obtain ⟨fields, _, _, _, _, _, body, _, _, _, states, listed, transitions, drawn, _, _, _, _, rfl⟩ := read
  have first := State.confined.entries.getD? rfl listed
  have second := Transition.confined.entries.getD? rfl drawn
  simp only [Definition.isFinite, first, second]
  rfl

namespace Automaton

variable {d : Definition} {a : Automaton}

-- All the ways to an automaton: either notation, or a draft.
inductive Made (a : Automaton) : Prop where
  | json {text : String} (read : ofJsonText text = .ok a)
  | yaml {text : String} (read : ofYamlText text = .ok a)
  | draft {plan : Draft} (built : plan.build = .ok a)

theorem mapError_ok {ε ε' α : Type} {f : ε → ε'} {x : Except ε α} {value : α}
    (fine : x.mapError f = .ok value) : x = .ok value := by
  cases x with
  | error e => cases fine
  | ok v =>
    cases fine
    rfl

theorem loadOr_ok {malformed : LoadError} {definition : Option Definition}
    (loaded : loadOr malformed definition = .ok a) : ∃ d, definition = some d ∧ load d = .ok a := by
  cases definition with
  | none => cases loaded
  | some d => exact ⟨d, rfl, mapError_ok loaded⟩

-- Whichever way was taken, it led through a definition.
theorem Made.loaded (made : Made a) : ∃ d, load d = .ok a := by
  cases made with
  | json read =>
    obtain ⟨d, _, loaded⟩ := loadOr_ok read
    exact ⟨d, loaded⟩
  | yaml read =>
    obtain ⟨d, _, loaded⟩ := loadOr_ok read
    exact ⟨d, loaded⟩
  | @draft plan built =>
    unfold Draft.build at built
    cases stated : plan.definition with
    | error e =>
      rw [stated] at built
      cases built
    | ok d =>
      rw [stated] at built
      exact ⟨d, mapError_ok built⟩

-- Loading names the entries and puts them in order. It leaves their floats alone.
theorem toDefinition_isFinite (loaded : load d = .ok a) : a.toDefinition.isFinite = d.isFinite := by
  obtain ⟨back, states, transitions, _⟩ := toDefinition_of_load loaded
  have first : a.states.entries.all (·.2.isFinite) = d.states.all (·.2.isFinite) := by
    rw [states.all_eq, List.all_map]
    rfl
  have second : a.transitions.entries.all (·.2.isFinite) = d.transitions.all (·.2.isFinite) := by
    rw [transitions.all_eq, List.all_map]
    rfl
  rw [back, Definition.isFinite, Definition.isFinite, first, second]

theorem ofJsonText_isFinite {text : String} (read : ofJsonText text = .ok a) :
    a.toDefinition.isFinite := by
  obtain ⟨d, parsed, loaded⟩ := loadOr_ok read
  obtain ⟨node, _, held⟩ := Option.bind_eq_some_iff.mp parsed
  rw [toDefinition_isFinite loaded]
  exact Definition.confined node d held

-- An infinite float and one that is no number are both written as null, which is not read as a float.
theorem saved_exact (made : Made a) :
    (ofJsonText a.toJsonText = if a.toDefinition.isFinite then .ok a else .error .malformedJson) ∧
      ((∃ text, ofJsonText text = .ok a) ↔ a.toDefinition.isFinite) := by
  obtain ⟨d, loaded⟩ := made.loaded
  have saved : ofJsonText a.toJsonText =
      if a.toDefinition.isFinite then .ok a else .error .malformedJson := by
    rw [ofJsonText, toJsonText, Definition.ofJsonText?_pretty]
    split
    · rw [loadOr, load_toDefinition loaded]
      rfl
    · rfl
  refine ⟨saved, ?_, ?_⟩
  · rintro ⟨text, read⟩
    exact ofJsonText_isFinite read
  · intro finite
    rw [if_pos finite] at saved
    exact ⟨_, saved⟩

-- A lamp that stays lit. What is drawn weighs 2, so that the weight beside it is not checked.
def lamp : String :=
  "version: v1\nconfig: \x7bname: lamp\x7d\nautomata:\n  initialState: lit\n" ++
  "  states: \x7blit: \x7b\x7d\x7d\n  transitions:\n    stay:\n      from: lit\n      to: lit\n" ++
  "      weight: .inf\n      probabilistic: \x7benabled: true, weight: 2\x7d\n"

theorem saved_exact_lamp : ∃ a, ofYamlText lamp = .ok a ∧
    ofJsonText a.toJsonText = .error .malformedJson ∧ ¬ ∃ text, ofJsonText text = .ok a := by
  have drifts : (ofYamlText lamp).toOption.map (·.toDefinition.isFinite) = some false := by
    decide +kernel
  cases read : ofYamlText lamp with
  | error e =>
    rw [read] at drifts
    cases drifts
  | ok a =>
    rw [read] at drifts
    have endless : a.toDefinition.isFinite = false := Option.some.inj drifts
    obtain ⟨saved, known⟩ := saved_exact (.yaml read)
    refine ⟨a, rfl, ?_, ?_⟩
    · rw [saved, endless]
      rfl
    · rw [known, endless]
      exact Bool.false_ne_true

end Automaton

end Chronomata
