import Chronomata.Decimal.Notation
import Chronomata.Value
import Chronomata.Definition.Basic

-- What can be wrong with a definition. All of it is reported, not only what is met first: issues stand
-- in the order of the entries that they are about, and for one entry in a fixed order.
namespace Chronomata

inductive Issue where
  | duplicateState (id : String)
  | duplicateTransition (id : String)
  | stateKeyMismatch (key id : String)
  | transitionKeyMismatch (key id : String)
  | missingInitialState (id : String)
  | danglingSource (transition state : String)
  | danglingTarget (transition state : String)
  | invalidWeight (transition : String) (weight : Float)
  | reservedState (id : String)
  | invalidDeclaration (state declaration : String)
  | missingLocation
  deriving DecidableEq

namespace Issue

def message : Issue → String
  | duplicateState id => s!"duplicate state id '{id}'"
  | duplicateTransition id => s!"duplicate transition id '{id}'"
  | stateKeyMismatch key id => s!"state keyed '{key}' declares id '{id}'"
  | transitionKeyMismatch key id => s!"transition keyed '{key}' declares id '{id}'"
  | missingInitialState id => s!"initial state '{id}' does not exist"
  | danglingSource transition state => s!"transition '{transition}' leaves unknown state '{state}'"
  | danglingTarget transition state => s!"transition '{transition}' targets unknown state '{state}'"
  | invalidWeight transition weight =>
    let written := Decimal.text .message weight
    s!"transition '{transition}' has invalid weight {written}"
  | reservedState id => s!"state id '{id}' is reserved"
  | invalidDeclaration state declaration =>
    s!"state '{state}' has malformed declaration '{declaration}'"
  | missingLocation => "folder automata requires a location"

end Issue

namespace Definition

def demand (holds : Bool) (issue : Issue) : List Issue := if holds then [] else [issue]

def agrees (id key : String) : Bool := id.isEmpty || id == key

def stateIssues (before : List String) (key : String) (s : State) : List Issue :=
  demand (!before.contains key) (.duplicateState key)
    ++ demand (agrees s.id key) (.stateKeyMismatch key s.id)
    ++ demand (key != errorState) (.reservedState key)
    ++ s.declarations.flatMap fun declaration =>
      demand (Declaration.parse declaration).isSome (.invalidDeclaration key declaration)

def statesIssues (before : List String) : List (String × State) → List Issue
  | [] => []
  | (key, s) :: rest => stateIssues before key s ++ statesIssues (key :: before) rest

def isWeight (weight : Float) : Bool := weight.isFinite && 0 < weight

-- What is wrong with one transition, the keys before it and the states being known.
def transitionIssues (states before : List String) (key : String) (t : Transition) : List Issue :=
  demand (!before.contains key) (.duplicateTransition key)
    ++ demand (agrees t.id key) (.transitionKeyMismatch key t.id)
    ++ demand (states.contains t.source) (.danglingSource key t.source)
    ++ demand (states.contains t.target) (.danglingTarget key t.target)
    ++ demand (isWeight t.effectiveWeight) (.invalidWeight key t.effectiveWeight)

def transitionsIssues (states before : List String) : List (String × Transition) → List Issue
  | [] => []
  | (key, t) :: rest =>
    transitionIssues states before key t ++ transitionsIssues states (key :: before) rest

def stateKeys (d : Definition) : List String := d.states.map (·.1)

def issues (d : Definition) : List Issue :=
  demand (d.header.place != .folder || d.header.location.isSome) .missingLocation
    ++ statesIssues [] d.states
    ++ demand (d.stateKeys.contains d.initial) (.missingInitialState d.initial)
    ++ transitionsIssues d.stateKeys [] d.transitions

def issuesMessage (issues : List Issue) : String :=
  "invalid automata definition: " ++ String.intercalate "; " (issues.map Issue.message)

end Definition

end Chronomata
