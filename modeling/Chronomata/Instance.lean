import Chronomata.Host
import Chronomata.Selection
import Chronomata.Snapshot.Basic

-- One automaton running on one device. Whatever a tick changes on the way is kept in a `Turn`; a script that
-- fails ends the turn where it stands and puts the instance into the error state.
namespace Chronomata

inductive EngineError where
  | invalidLifecycle (key : InstanceKey) (runState : RunState) (action : String)
  | notRunning (key : InstanceKey) (runState : RunState)
  | unknownState (key : InstanceKey) (state : String)
  | unknownDevice (device : String)
  | unknownInstance (key : InstanceKey)
  | duplicateInstance (key : InstanceKey)
  deriving DecidableEq

def RunState.display : RunState → String
  | .stopped => "Stopped"
  | .running => "Running"
  | .paused => "Paused"

namespace EngineError

def message : EngineError → String
  | invalidLifecycle key runState action =>
    s!"instance {key.display} is {runState.display}, cannot {action}"
  | notRunning key runState => s!"instance {key.display} is {runState.display}, not running"
  | unknownState key state => s!"instance {key.display} is in unknown state '{state}'"
  | unknownDevice device => s!"unknown device '{device}'"
  | unknownInstance key => s!"unknown instance {key.display}"
  | duplicateInstance key => s!"instance {key.display} is already deployed"

end EngineError

inductive Fault where
  | guard (transition : String) (cause : ScriptError)
  | action (state : String) (cause : ScriptError)
  deriving DecidableEq

def Fault.message (key : InstanceKey) : Fault → String
  | .guard transition cause =>
    s!"guard of transition '{transition}' failed in {key.display}: {cause.message}"
  | .action state cause => s!"action in state '{state}' failed in {key.display}: {cause.message}"

structure Instance where
  device : String
  automaton : Automaton
  runState : RunState
  currentState : String
  previousState : Option String
  lastTransition : Option String
  cycle : UInt64
  locals : Values
  inputs : Values
  outputs : Values
  latest : ExecutionSnapshot
  deriving DecidableEq

namespace Automaton

-- The zero values of declarations, by name. Of several declarations of one name the first one
-- counts. Texts that declare nothing are skipped.
def zeroValues (declarations : List String) : Values :=
  (declarations.filterMap Declaration.parse).foldl
    (fun values d => values.insertNew d.name d.type.zero) SortedMap.empty

-- The first values of what the states declare in one of their sets, state by state.
def firstValues (a : Automaton) (declared : State → SortedSet String) : Values :=
  zeroValues (a.states.values.flatMap fun s => (declared s).toList)

end Automaton

namespace Instance

def snapshot (i : Instance) (now : Instant) : ExecutionSnapshot where
  key := ⟨i.device, i.automaton.id⟩
  timestamp := now
  cycle := i.cycle
  currentState := i.currentState
  previousState := i.previousState
  lastTransition := i.lastTransition
  locals := i.locals
  inputs := i.inputs
  outputs := i.outputs
  runState := i.runState

def publish (i : Instance) (now : Instant) : Instance := { i with latest := i.snapshot now }

def new (device : String) (a : Automaton) (now : Instant) : Instance :=
  let locals := a.firstValues (·.locals)
  let inputs := a.firstValues (·.inputs)
  let outputs := a.firstValues (·.outputs)
  { device, automaton := a, runState := .stopped, currentState := a.initial
    previousState := none, lastTransition := none, cycle := 0
    locals, inputs, outputs
    latest := ⟨⟨device, a.id⟩, now, 0, a.initial, none, none, locals, inputs, outputs, .stopped⟩ }

def key (i : Instance) : InstanceKey := ⟨i.device, i.automaton.id⟩

def isFaulted (i : Instance) : Bool := i.currentState == errorState

def setInput (i : Instance) (name : String) (value : Value) : Instance :=
  { i with inputs := i.inputs.insert name value }

def setInputs (i : Instance) (inputs : List (String × Value)) : Instance :=
  inputs.foldl (fun i (name, value) => i.setInput name value) i

def changeRunState (i : Instance) (now : Instant) (sources : List RunState) (target : RunState)
    (action : String) : Except EngineError Instance :=
  if sources.contains i.runState then .ok ({ i with runState := target }.publish now)
  else .error (.invalidLifecycle i.key i.runState action)

def start (i : Instance) (now : Instant) : Except EngineError Instance :=
  i.changeRunState now [.stopped] .running "start"

def pause (i : Instance) (now : Instant) : Except EngineError Instance :=
  i.changeRunState now [.running] .paused "pause"

def resume (i : Instance) (now : Instant) : Except EngineError Instance :=
  i.changeRunState now [.paused] .running "resume"

def stop (i : Instance) (now : Instant) : Except EngineError Instance :=
  i.changeRunState now [.running, .paused] .stopped "stop"

def reset (i : Instance) (now : Instant) : Except EngineError Instance :=
  if i.runState = .stopped then
    .ok ({ i with
      currentState := i.automaton.initial
      previousState := none
      lastTransition := none
      cycle := 0
      locals := i.automaton.firstValues (·.locals)
      inputs := i.automaton.firstValues (·.inputs)
      outputs := i.automaton.firstValues (·.outputs) }.publish now)
  else .error (.invalidLifecycle i.key i.runState "reset")

end Instance

inductive Request where
  | evaluate
  | execute
  deriving DecidableEq, Repr

structure Call where
  request : Request
  body : String
  context : Context
  deriving DecidableEq

structure Turn where
  locals : Values
  outputs : Values
  emitted : Values
  calls : List Call
  deriving DecidableEq

-- A part of a turn. When it fails, what it changed before stays changed.
abbrev TurnM := ExceptT Fault (StateM Turn)

namespace Turn

def apply (t : Turn) (e : Effects) : Turn :=
  { t with
    locals := t.locals.insertAll e.locals.entries
    outputs := t.outputs.insertAll e.outputs.entries
    emitted := t.emitted.insertAll e.outputs.entries }

def note (t : Turn) (call : Call) : Turn := { t with calls := t.calls ++ [call] }

end Turn

namespace Instance

def context (i : Instance) (state : String) (t : Turn) : Context :=
  ⟨i.automaton.id, state, i.cycle, i.inputs, t.locals⟩

def runAction (i : Instance) (host : Host) (state body : String) : TurnM Unit := do
  let context := i.context state (← get)
  modify (·.note ⟨.execute, body, context⟩)
  match host.execute body context with
  | .ok effects => modify (·.apply effects)
  | .error cause => throw (.action state cause)

def runActionIf (i : Instance) (host : Host) (state : String) : Option String → TurnM Unit
  | some body => i.runAction host state body
  | none => pure ()

-- Whether every guard of a transition holds. The first one that does not ends the evaluation.
def guardsHold (i : Instance) (host : Host) (transition : String) : List String → TurnM Bool
  | [] => pure true
  | body :: rest => do
    let context := i.context i.currentState (← get)
    modify (·.note ⟨.evaluate, body, context⟩)
    match host.evaluate body context with
    | .ok true => i.guardsHold host transition rest
    | .ok false => pure false
    | .error cause => throw (.guard transition cause)

def evaluateGuards (i : Instance) (host : Host) (guards : Guards) :
    List Transition → TurnM Guards
  | [] => pure guards
  | t :: rest => do
    let holds ← i.guardsHold host t.id t.guards
    i.evaluateGuards host (guards.insert t.id holds) rest

-- The part of a tick that calls the host in the current state: the transition that fires, if any.
def advance (i : Instance) (host : Host) (state : State) : TurnM (Option Transition) := do
  if state.code ≠ "" then i.runAction host i.currentState state.code
  let outgoing := i.automaton.transitionsFrom i.currentState
  let guards ← i.evaluateGuards host SortedMap.empty outgoing
  match i.automaton.select i.currentState guards i.cycle with
  | none => pure none
  | some t =>
    i.runActionIf host i.currentState t.body
    i.runActionIf host i.currentState state.onExit
    i.runActionIf host t.target ((i.automaton.states.get? t.target).bind (·.onEnter))
    pure (some t)

structure TickReport where
  snapshot : ExecutionSnapshot
  fired : Option String
  emitted : Values
  events : List Event
  calls : List Call
  deriving DecidableEq

def fire (i : Instance) (t : Transition) : Instance :=
  { i with
    previousState := some i.currentState
    currentState := t.target
    lastTransition := some t.id
    cycle := i.cycle + 1 }

def enterErrorState (i : Instance) : Instance :=
  { i with
    previousState := some i.currentState
    currentState := errorState
    lastTransition := none
    cycle := i.cycle + 1 }

def beginTurn (i : Instance) : Turn := ⟨i.locals, i.outputs, SortedMap.empty, []⟩

-- What came of calling the host, and the turn as it was left. A faulted instance calls no host; a
-- state that the automaton does not have cannot be played.
def playTurn (i : Instance) (host : Host) :
    Except EngineError (Except Fault (Option Transition) × Turn) :=
  if i.isFaulted then .ok (.ok none, i.beginTurn)
  else match i.automaton.states.get? i.currentState with
    | some state => .ok ((i.advance host state).run i.beginTurn)
    | none => .error (.unknownState i.key i.currentState)

def conclude (i : Instance) (now : Instant) (outcome : Except Fault (Option Transition))
    (turn : Turn) : Instance × TickReport :=
  let changed := { i with locals := turn.locals, outputs := turn.outputs }
  let (moved, fired, events) := match outcome with
    | .ok none => (changed, none, [])
    | .ok (some t) => (changed.fire t, some t.id, [])
    | .error fault => (changed.enterErrorState, none,
        [Event.about i.key now .error .scriptFailure (fault.message i.key)])
  let published := moved.publish now
  (published, ⟨published.latest, fired, turn.emitted, events, turn.calls⟩)

-- One tick of a running instance. Scripts that fail do not make it fail: they are reported as an
-- event.
def tick (i : Instance) (host : Host) (now : Instant) :
    Except EngineError (Instance × TickReport) :=
  if i.runState ≠ .running then .error (.notRunning i.key i.runState)
  else (i.playTurn host).map fun (outcome, turn) => i.conclude now outcome turn

end Instance

end Chronomata
