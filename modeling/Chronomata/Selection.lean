import Chronomata.Automaton
import Chronomata.Random.Seed

-- Weights that add up to one, and which transition fires. Among the candidates only those of least priority
-- value count; unless they are all plain, one is drawn by weight.
namespace Chronomata

inductive WeightError where
  | zeroTotal
  | invalid (weight : Float)
  deriving DecidableEq

namespace WeightError

def message : WeightError → String
  | zeroTotal => "cannot normalize weights: total weight is zero"
  | invalid weight =>
    let written := Decimal.text .message weight
    s!"cannot normalize weights: {written} is negative or not finite"

end WeightError

namespace Weights

def tolerance : Float := 1e-12

def total (weights : List Float) : Float := weights.foldl (· + ·) 0.0

def isValid (weight : Float) : Bool := weight.isFinite && !(weight < 0)

-- Rescale weights so that they add up to one. Weights that already do stay as they are.
def normalize (weights : List Float) : Except WeightError (List Float) :=
  match weights.find? fun w => !isValid w with
  | some bad => .error (.invalid bad)
  | none =>
    let sum := total weights
    if sum == 0 then .error .zeroTotal
    else if (sum - 1.0).abs ≤ tolerance then .ok weights
    else .ok (weights.map (· / sum))

end Weights

namespace Automaton

def withWeight (a : Automaton) (id : String) (weight : Float) : Automaton :=
  { a with
    transitions := a.transitions.adjust id fun t => t.withEffectiveWeight weight
    isDirty := true }

-- Normalize the effective weights of the transitions that leave a state, all of them together.
def normalizeOutgoing (a : Automaton) (state : String) : Except WeightError Automaton := do
  let outgoing := a.transitionsFrom state
  let weights ← Weights.normalize (outgoing.map (·.effectiveWeight))
  return (outgoing.zip weights).foldl (fun a (t, weight) => a.withWeight t.id weight) a

end Automaton

namespace Weights

def indexBelow (draw sum : Float) : List Float → Option Nat
  | [] => none
  | w :: rest =>
    if draw < sum + w then some 0 else (indexBelow draw (sum + w) rest).map (· + 1)

def lastPositive : List Float → Option Nat
  | [] => none
  | w :: rest => match lastPositive rest with
    | some index => some (index + 1)
    | none => if 0 < w then some 0 else none

-- The index that a draw selects, each with the probability of its weight. The running sum can end a
-- little below one; a draw above it selects the last member that has any weight.
def indexAt (weights : List Float) (draw : Float) : Option Nat :=
  match normalize weights with
  | .error _ => none
  | .ok normalized => (indexBelow draw 0.0 normalized).or (lastPositive normalized)

def drawIndex (weights : List Float) (seed : Seed) : Option Nat := indexAt weights seed.draw

end Weights

-- Which guards hold, by the id of their transition. A transition without an entry does not hold.
abbrev Guards := SortedMap String Bool

namespace Automaton

-- The transitions that may fire: those that leave the state and whose guard holds.
def candidates (a : Automaton) (state : String) (guards : Guards) : List Transition :=
  (a.transitionsFrom state).filter fun t => (guards.get? t.id).getD false

def leastPriority (transitions : List Transition) : Option Int32 :=
  (transitions.map (·.priority)).min?

def group (candidates : List Transition) : List Transition :=
  match leastPriority candidates with
  | some least => candidates.filter (·.priority == least)
  | none => []

def isPlain (group : List Transition) : Bool :=
  group.all fun t => t.weight == 1.0 && !t.isProbabilistic

def select (a : Automaton) (state : String) (guards : Guards) (cycle : UInt64) :
    Option Transition :=
  let group := group (a.candidates state guards)
  if group.isEmpty then none
  else if isPlain group then group.head?
  else do
    let index ← Weights.drawIndex (group.map (·.effectiveWeight)) ⟨a.id, state, cycle⟩
    group[index]?

end Automaton

end Chronomata
