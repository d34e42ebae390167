import Chronomata.Sorted.Map
import Chronomata.Definition.Basic
import Chronomata.Time.Instant
import Chronomata.Value

-- Snapshots: what instances and devices looked like at one moment, and what happened among them since
-- the moment before. A snapshot never changes once it is taken.
namespace Chronomata

-- Which automaton runs on which device. Keys are ordered by device, then by automaton.
structure InstanceKey where
  device : String
  automaton : String
  deriving DecidableEq, Repr, Inhabited

namespace InstanceKey

def order : InstanceKey → InstanceKey → Ordering := compareLex (compareOn device) (compareOn automaton)

instance : Ord InstanceKey := ⟨order⟩

instance : Std.TransOrd InstanceKey :=
  inferInstanceAs (Std.TransCmp (compareLex (compareOn device) (compareOn automaton)))

instance : Std.LawfulEqOrd InstanceKey where
  compare_self {k} := by
    show (compareLex (compareOn device) (compareOn automaton)) k k = .eq
    exact Std.ReflCmp.compare_self
  eq_of_compare {k l} same := by
    have both : (compareOn device k l).then (compareOn automaton k l) = .eq := same
    rw [Ordering.then_eq_eq] at both
    obtain ⟨d, a⟩ := k
    obtain ⟨d', a'⟩ := l
    have first : d = d' := Std.LawfulEqCmp.eq_of_compare both.1
    have second : a = a' := Std.LawfulEqCmp.eq_of_compare both.2
    rw [first, second]

def display (k : InstanceKey) : String := s!"{k.device}/{k.automaton}"

end InstanceKey

inductive RunState where
  | stopped
  | running
  | paused
  deriving DecidableEq, Repr

-- What an instance looked like at the end of a tick, or after a change of its run state.
structure ExecutionSnapshot where
  key : InstanceKey
  timestamp : Instant
  cycle : UInt64
  currentState : String
  previousState : Option String
  lastTransition : Option String
  locals : Values
  inputs : Values
  outputs : Values
  runState : RunState
  deriving DecidableEq

def ExecutionSnapshot.isFaulted (s : ExecutionSnapshot) : Bool := s.currentState == errorState

inductive Severity where
  | info
  | warning
  | error
  deriving DecidableEq, Repr

inductive EventKind where
  | scriptFailure
  | connectionChanged
  | lifecycle
  | messageDropped
  deriving DecidableEq, Repr

structure Event where
  timestamp : Instant
  severity : Severity
  kind : EventKind
  device : String
  key : Option InstanceKey
  message : String
  deriving DecidableEq

def Event.about (key : InstanceKey) (timestamp : Instant) (severity : Severity) (kind : EventKind)
    (message : String) : Event :=
  ⟨timestamp, severity, kind, key.device, some key, message⟩

structure Communication where
  timestamp : Instant
  sender : InstanceKey
  receiver : InstanceKey
  channel : String
  value : Value
  deriving DecidableEq

inductive Connection where
  | connected
  | disconnected
  deriving DecidableEq, Repr, Inhabited

inductive Health where
  | healthy
  | degraded
  | offline
  deriving DecidableEq, Repr

structure DeviceSummary where
  device : String
  connection : Connection
  health : Health
  instances : UInt64
  running : UInt64
  faulted : UInt64
  totalCycles : UInt64
  deriving DecidableEq

-- The health of a device: offline when it cannot be reached, else degraded when any of its
-- instances is faulted.
def Health.of (connection : Connection) (faulted : Nat) : Health :=
  match connection with
  | .disconnected => .offline
  | .connected => if faulted = 0 then .healthy else .degraded

def DeviceSummary.of (device : String) (connection : Connection)
    (executions : List ExecutionSnapshot) : DeviceSummary :=
  let faulted := executions.countP (·.isFaulted)
  { device, connection
    health := .of connection faulted
    instances := .ofNat executions.length
    running := .ofNat (executions.countP (·.runState == .running))
    faulted := .ofNat faulted
    totalCycles := executions.foldr (fun s total => s.cycle + total) 0 }

structure Capture where
  executions : List ExecutionSnapshot
  devices : List DeviceSummary
  communications : List Communication
  events : List Event
  deriving DecidableEq

def Capture.empty : Capture := ⟨[], [], [], []⟩

structure Frame where
  number : UInt64
  timestamp : Instant
  executions : List ExecutionSnapshot
  devices : List DeviceSummary
  communications : List Communication
  events : List Event
  deriving DecidableEq

namespace Frame

def ofCapture (number : UInt64) (timestamp : Instant) (capture : Capture) : Frame :=
  ⟨number, timestamp, capture.executions, capture.devices, capture.communications, capture.events⟩

def execution? (f : Frame) (key : InstanceKey) : Option ExecutionSnapshot :=
  f.executions.find? (·.key == key)

def device? (f : Frame) (device : String) : Option DeviceSummary :=
  f.devices.find? (·.device == device)

def eventsAt (f : Frame) (severity : Severity) : List Event :=
  f.events.filter (·.severity == severity)

def hasErrors (f : Frame) : Bool := f.events.any (·.severity == .error)

end Frame

end Chronomata
