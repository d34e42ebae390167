import Chronomata.Json.Printer
import Chronomata.Sorted.Map
import Chronomata.Source

-- Definitions of automata as documents state them. A definition keeps every entry it was given, in
-- order and with repetitions, so that checking it can report what is wrong.
namespace Chronomata

inductive ScriptPlace where
  | inline
  | folder
  deriving DecidableEq, Repr, Inhabited

structure Header where
  name : String
  place : ScriptPlace
  language : String
  description : String
  tags : List String
  location : Option String
  deriving DecidableEq

structure Position where
  x : Float
  y : Float
  deriving DecidableEq

structure State where
  id : String
  name : String
  inputs : SortedSet String
  outputs : SortedSet String
  locals : SortedSet String
  code : String
  onEnter : Option String
  onExit : Option String
  isComposite : Bool
  position : Option Position
  deriving DecidableEq

structure Chance where
  enabled : Bool
  weight : Float
  condition : Option String
  deriving DecidableEq

-- A further guard; its threshold is not read here.
structure FuzzyGuard where
  enabled : Bool
  expression : String
  threshold : Float
  deriving DecidableEq

structure Transition where
  id : String
  source : String
  target : String
  condition : Option String
  body : Option String
  priority : Int32
  weight : Float
  chance : Option Chance
  fuzzyGuard : Option FuzzyGuard
  deriving DecidableEq

structure Definition where
  version : String
  header : Header
  initial : String
  states : List (String × State)
  transitions : List (String × Transition)
  inputs : SortedSet String
  outputs : SortedSet String
  deriving DecidableEq

def defaultWeight : Float := 1.0

-- The state in which an instance stays after a script has failed. No definition may declare it.
def errorState : String := "$error"

namespace State

def plain (id : String) : State :=
  ⟨id, id, SortedMap.empty, SortedMap.empty, SortedMap.empty, "", none, none, false, none⟩

def declarations (s : State) : List String :=
  s.locals.toList ++ s.inputs.toList ++ s.outputs.toList

end State

namespace Transition

def isProbabilistic (t : Transition) : Bool := t.chance.any (·.enabled)

def effectiveWeight (t : Transition) : Float :=
  match t.chance with
  | some c => if c.enabled then c.weight else t.weight
  | none => t.weight

def withEffectiveWeight (t : Transition) (weight : Float) : Transition :=
  match t.chance with
  | some c =>
    if c.enabled then { t with chance := some { c with weight } } else { t with weight }
  | none => { t with weight }

-- Every predicate that must hold before the transition may fire, in the order of evaluation.
def guards (t : Transition) : List String :=
  t.condition.toList
    ++ ((t.chance.filter (·.enabled)).bind (·.condition)).toList
    ++ ((t.fuzzyGuard.filter (·.enabled)).map (·.expression)).toList

-- The new weight is the one that counts, whichever field holds it.
theorem effectiveWeight_withEffectiveWeight (t : Transition) (weight : Float) :
    (t.withEffectiveWeight weight).effectiveWeight = weight := by
  unfold withEffectiveWeight effectiveWeight
  cases chance : t.chance with
  | none => simp
  | some c => cases enabled : c.enabled <;> simp [enabled]

end Transition

end Chronomata
