import Chronomata.Snapshot.Basic
import Chronomata.Time.Timestamp

-- Snapshots in object notation: how they are written and how they are read back.
namespace Chronomata

open Source

namespace Timestamp

def toJson (i : Instant) : Json := .text (write i)

def ofJson? (node : Json) : Option Instant := (text? node).bind read?

end Timestamp

-- Each enumeration has a name for every alternative, and a list of them all to read from.

def named {α : Type} (name : α → String) (all : List α) : List (String × α) :=
  all.map fun value => (name value, value)

def RunState.name : RunState → String
  | .stopped => "stopped"
  | .running => "running"
  | .paused => "paused"

def RunState.all : List RunState := [.stopped, .running, .paused]

def Severity.name : Severity → String
  | .info => "info"
  | .warning => "warning"
  | .error => "error"

def Severity.all : List Severity := [.info, .warning, .error]

def EventKind.name : EventKind → String
  | .scriptFailure => "scriptFailure"
  | .connectionChanged => "connectionChanged"
  | .lifecycle => "lifecycle"
  | .messageDropped => "messageDropped"

def EventKind.all : List EventKind :=
  [.scriptFailure, .connectionChanged, .lifecycle, .messageDropped]

def Connection.name : Connection → String
  | .connected => "connected"
  | .disconnected => "disconnected"

def Connection.all : List Connection := [.connected, .disconnected]

def Health.name : Health → String
  | .healthy => "healthy"
  | .degraded => "degraded"
  | .offline => "offline"

def Health.all : List Health := [.healthy, .degraded, .offline]

def word? {α : Type} (name : α → String) (all : List α) (node : Json) : Option α :=
  choice? (named name all) node

def countJson (count : UInt64) : Json := .natural count.toNat

def InstanceKey.toJson (k : InstanceKey) : Json :=
  .record [("deviceId", .text k.device), ("automataId", .text k.automaton)]

def InstanceKey.ofJson? (node : Json) : Option InstanceKey := do
  let fields ← allFields? ["deviceId", "automataId"] node
  some { device := ← fields.get? "deviceId" text?, automaton := ← fields.get? "automataId" text? }

def ExecutionSnapshot.toJson (s : ExecutionSnapshot) : Json :=
  .record [("instance", s.key.toJson), ("timestamp", Timestamp.toJson s.timestamp),
    ("executionCycle", countJson s.cycle), ("currentState", .text s.currentState),
    ("previousState", .optional .text s.previousState),
    ("lastTransition", .optional .text s.lastTransition), ("variables", s.locals.toJson),
    ("inputs", s.inputs.toJson), ("outputs", s.outputs.toJson),
    ("runState", .text s.runState.name)]

def ExecutionSnapshot.ofJson? (node : Json) : Option ExecutionSnapshot := do
  let fields ← allFields? ["instance", "timestamp", "executionCycle", "currentState",
    "previousState", "lastTransition", "variables", "inputs", "outputs", "runState"] node
  some {
    key := ← fields.get? "instance" InstanceKey.ofJson?
    timestamp := ← fields.get? "timestamp" Timestamp.ofJson?
    cycle := ← fields.get? "executionCycle" word64?
    currentState := ← fields.get? "currentState" text?
    previousState := ← fields.optional? "previousState" text?
    lastTransition := ← fields.optional? "lastTransition" text?
    locals := ← fields.get? "variables" Values.read?
    inputs := ← fields.get? "inputs" Values.read?
    outputs := ← fields.get? "outputs" Values.read?
    runState := ← fields.get? "runState" (word? RunState.name RunState.all) }

def Event.toJson (e : Event) : Json :=
  .record [("timestamp", Timestamp.toJson e.timestamp),
    ("severity", .text e.severity.name), ("kind", .text e.kind.name),
    ("deviceId", .text e.device), ("instance", .optional InstanceKey.toJson e.key),
    ("message", .text e.message)]

def Event.ofJson? (node : Json) : Option Event := do
  let fields ← allFields? ["timestamp", "severity", "kind", "deviceId", "instance", "message"] node
  some {
    timestamp := ← fields.get? "timestamp" Timestamp.ofJson?
    severity := ← fields.get? "severity" (word? Severity.name Severity.all)
    kind := ← fields.get? "kind" (word? EventKind.name EventKind.all)
    device := ← fields.get? "deviceId" text?
    key := ← fields.optional? "instance" InstanceKey.ofJson?
    message := ← fields.get? "message" text? }

def Communication.toJson (c : Communication) : Json :=
  .record [("timestamp", Timestamp.toJson c.timestamp), ("from", c.sender.toJson),
    ("to", c.receiver.toJson), ("channel", .text c.channel), ("value", c.value.toJson)]

def Communication.ofJson? (node : Json) : Option Communication := do
  let fields ← allFields? ["timestamp", "from", "to", "channel", "value"] node
  some {
    timestamp := ← fields.get? "timestamp" Timestamp.ofJson?
    sender := ← fields.get? "from" InstanceKey.ofJson?
    receiver := ← fields.get? "to" InstanceKey.ofJson?
    channel := ← fields.get? "channel" text?
    value := ← fields.get? "value" Value.read? }

def DeviceSummary.toJson (d : DeviceSummary) : Json :=
  .record [("deviceId", .text d.device), ("connection", .text d.connection.name),
    ("health", .text d.health.name), ("instanceCount", countJson d.instances),
    ("running", countJson d.running), ("faulted", countJson d.faulted),
    ("totalCycles", countJson d.totalCycles)]

def DeviceSummary.ofJson? (node : Json) : Option DeviceSummary := do
  let fields ← allFields? ["deviceId", "connection", "health", "instanceCount", "running",
    "faulted", "totalCycles"] node
  some {
    device := ← fields.get? "deviceId" text?
    connection := ← fields.get? "connection" (word? Connection.name Connection.all)
    health := ← fields.get? "health" (word? Health.name Health.all)
    instances := ← fields.get? "instanceCount" word64?
    running := ← fields.get? "running" word64?
    faulted := ← fields.get? "faulted" word64?
    totalCycles := ← fields.get? "totalCycles" word64? }

def Frame.toJson (f : Frame) : Json :=
  .record [("frameNumber", countJson f.number), ("timestamp", Timestamp.toJson f.timestamp),
    ("executions", .list (f.executions.map ExecutionSnapshot.toJson)),
    ("devices", .list (f.devices.map DeviceSummary.toJson)),
    ("communications", .list (f.communications.map Communication.toJson)),
    ("events", .list (f.events.map Event.toJson))]

def Frame.ofJson? (node : Json) : Option Frame := do
  let fields ← allFields? ["frameNumber", "timestamp", "executions", "devices", "communications",
    "events"] node
  some {
    number := ← fields.get? "frameNumber" word64?
    timestamp := ← fields.get? "timestamp" Timestamp.ofJson?
    executions := ← fields.get? "executions" (list? ExecutionSnapshot.ofJson?)
    devices := ← fields.get? "devices" (list? DeviceSummary.ofJson?)
    communications := ← fields.get? "communications" (list? Communication.ofJson?)
    events := ← fields.get? "events" (list? Event.ofJson?) }

end Chronomata
