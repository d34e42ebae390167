import Chronomata.Automaton

-- Drafts of definitions, made step by step. A draft need not say where it starts, nor a drafted
-- transition where it leads, until they are finished.
namespace Chronomata

inductive DraftError where
  | missingInitial
  | missingSource (transition : String)
  | missingTarget (transition : String)
  | invalid (issues : List Issue)
  deriving DecidableEq

def DraftError.message : DraftError → String
  | .missingInitial => "Initial state not specified. Call .initial(state) before .build()"
  | .missingSource transition => s!"Transition '{transition}' has no source state. Call .from(state)"
  | .missingTarget transition => s!"Transition '{transition}' has no target state. Call .to(state)"
  | .invalid issues => Definition.issuesMessage issues

structure TransitionDraft where
  source : Option String
  target : Option String
  -- All the rest; its ends do not count.
  rest : Transition
  deriving DecidableEq

namespace TransitionDraft

def new (id : String) : TransitionDraft :=
  ⟨none, none, ⟨id, "", "", none, none, 0, defaultWeight, none, none⟩⟩

def withChance (d : TransitionDraft) (weight : Float) (condition : Option String) :
    TransitionDraft :=
  { d with rest := { d.rest with chance := some ⟨true, weight, condition⟩ } }

def withFuzzyGuard (d : TransitionDraft) (expression : String) (threshold : Float) :
    TransitionDraft :=
  { d with rest := { d.rest with fuzzyGuard := some ⟨true, expression, threshold⟩ } }

def finish (d : TransitionDraft) : Except DraftError Transition :=
  match d.source, d.target with
  | none, _ => .error (.missingSource d.rest.id)
  | some _, none => .error (.missingTarget d.rest.id)
  | some source, some target => .ok { d.rest with source, target }

end TransitionDraft

structure Draft where
  initial : Option String
  -- All the rest; its initial state does not count.
  rest : Definition
  deriving DecidableEq

namespace Draft

def new (name : String) : Draft where
  initial := none
  rest := {
    version := "1"
    header := ⟨name, .inline, "lua", "", [], none⟩
    initial := ""
    states := []
    transitions := []
    inputs := SortedMap.empty
    outputs := SortedMap.empty }

def addState (d : Draft) (s : State) : Draft :=
  { d with rest := { d.rest with states := d.rest.states ++ [(s.id, s)] } }

def addTransition (d : Draft) (t : TransitionDraft) : Except DraftError Draft := do
  let t ← t.finish
  .ok { d with rest := { d.rest with transitions := d.rest.transitions ++ [(t.id, t)] } }

-- The definition, once it says where it starts. Nothing else is checked.
def definition (d : Draft) : Except DraftError Definition :=
  match d.initial with
  | none => .error .missingInitial
  | some initial => .ok { d.rest with initial }

def build (d : Draft) : Except DraftError Automaton := do
  (Automaton.load (← d.definition)).mapError .invalid

end Draft

end Chronomata
