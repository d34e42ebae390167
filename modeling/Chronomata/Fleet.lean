import Chronomata.Instance

-- Devices, the instances deployed on them, and the messages between instances. All running instances tick at
-- once, so no message is seen in the tick that sent it.
namespace Chronomata

structure Device where
  connection : Connection
  instances : SortedMap String Instance
  deriving DecidableEq

structure Fleet where
  devices : SortedMap String Device
  communications : List Communication
  events : List Event
  deriving DecidableEq

def Connection.display : Connection → String
  | .connected => "Connected"
  | .disconnected => "Disconnected"

-- The event of a changed connection; a lost one is a warning.
def Event.connectionChanged (device : String) (connection : Connection) (now : Instant) : Event where
  timestamp := now
  severity := match connection with
    | .connected => .info
    | .disconnected => .warning
  kind := .connectionChanged
  device := device
  key := none
  message := s!"device {device} is now {connection.display}"

def Event.lifecycle (key : InstanceKey) (verb : String) (now : Instant) : Event :=
  .about key now .info .lifecycle s!"instance {key.display} {verb}"

def Event.messageDropped (sender receiver : InstanceKey) (channel : String) (now : Instant) :
    Event :=
  .about receiver now .warning .messageDropped
    s!"'{channel}' from {sender.display} dropped: device offline"

def Event.tickFailed (key : InstanceKey) (cause : EngineError) (now : Instant) : Event :=
  .about key now .error .scriptFailure cause.message

namespace Fleet

def empty : Fleet := ⟨SortedMap.empty, [], []⟩

-- Add a connected device; an earlier one of this name stays.
def addDevice (f : Fleet) (device : String) : Fleet :=
  { f with devices := f.devices.insertNew device ⟨.connected, SortedMap.empty⟩ }

def deviceNames (f : Fleet) : List String := f.devices.keys

def instance? (f : Fleet) (key : InstanceKey) : Option Instance :=
  (f.devices.get? key.device).bind fun d => d.instances.get? key.automaton

def instances (f : Fleet) : List Instance := f.devices.values.flatMap (·.instances.values)

def deploy (f : Fleet) (device : String) (a : Automaton) (now : Instant) :
    Except EngineError (Fleet × InstanceKey) :=
  match f.devices.get? device with
  | none => .error (.unknownDevice device)
  | some d =>
    if d.instances.contains a.id then .error (.duplicateInstance ⟨device, a.id⟩)
    else
      let deployed := d.instances.insert a.id (Instance.new device a now)
      .ok ({ f with devices := f.devices.insert device { d with instances := deployed } },
        ⟨device, a.id⟩)

def replaceInstance (f : Fleet) (key : InstanceKey) (i : Instance) : Fleet :=
  { f with
    devices := f.devices.adjust key.device fun d =>
      { d with instances := d.instances.adjust key.automaton fun _ => i } }

def changeInstance (f : Fleet) (key : InstanceKey)
    (change : Instance → Except EngineError Instance) : Except EngineError Fleet :=
  match f.instance? key with
  | none => .error (.unknownInstance key)
  | some i => (change i).map (f.replaceInstance key)

def note (f : Fleet) (event : Event) : Fleet := { f with events := f.events ++ [event] }

def changeRunState (f : Fleet) (key : InstanceKey) (verb : String) (now : Instant)
    (change : Instance → Except EngineError Instance) : Except EngineError Fleet :=
  (f.changeInstance key change).map (·.note (.lifecycle key verb now))

def start (f : Fleet) (key : InstanceKey) (now : Instant) : Except EngineError Fleet :=
  f.changeRunState key "started" now (·.start now)

def pause (f : Fleet) (key : InstanceKey) (now : Instant) : Except EngineError Fleet :=
  f.changeRunState key "paused" now (·.pause now)

def resume (f : Fleet) (key : InstanceKey) (now : Instant) : Except EngineError Fleet :=
  f.changeRunState key "resumed" now (·.resume now)

def stop (f : Fleet) (key : InstanceKey) (now : Instant) : Except EngineError Fleet :=
  f.changeRunState key "stopped" now (·.stop now)

def startAll (f : Fleet) (now : Instant) : Fleet :=
  let stopped := (f.instances.filter (·.runState == .stopped)).map (·.key)
  stopped.foldl (fun f key => (f.start key now).toOption.getD f) f

def setInput (f : Fleet) (key : InstanceKey) (name : String) (value : Value) :
    Except EngineError Fleet :=
  f.changeInstance key fun i => .ok (i.setInput name value)

-- Set whether a device can be reached. A change is noted.
def setConnection (f : Fleet) (device : String) (connection : Connection) (now : Instant) :
    Except EngineError Fleet :=
  match f.devices.get? device with
  | none => .error (.unknownDevice device)
  | some d =>
    if d.connection = connection then .ok f
    else .ok ({ f with devices := f.devices.insert device { d with connection } }.note
      (.connectionChanged device connection now))

structure TickReport where
  ticked : List InstanceKey
  fired : SortedMap InstanceKey String
  faulted : List InstanceKey
  calls : List Call
  deriving DecidableEq

structure Outcome where
  key : InstanceKey
  sent : Values
  report : Instance.TickReport

def channelValues (a : Automaton) (emitted : Values) : Values :=
  emitted.filter fun name _ => a.outputs.contains name

structure Step where
  after : Instance
  outcome : Option Outcome
  events : List Event

-- One instance in a tick. Only running instances tick.
def tickInstance (host : Host) (now : Instant) (i : Instance) : Step :=
  if i.runState ≠ .running then ⟨i, none, []⟩
  else match i.tick host now with
    | .ok (after, report) =>
      ⟨after, some ⟨i.key, channelValues i.automaton report.emitted, report⟩, report.events⟩
    | .error cause => ⟨i, none, [.tickFailed i.key cause now]⟩

-- One device in a tick. Instances on a device that cannot be reached do not tick.
def tickDevice (host : Host) (now : Instant) (d : Device) : Device × List Step :=
  if d.connection = .disconnected then (d, [])
  else
    let stepped := d.instances.map fun _ i => tickInstance host now i
    ({ d with instances := stepped.map fun _ s => s.after }, stepped.values)

def deliver (now : Instant) (sender : InstanceKey) (channel : String) (value : Value) (f : Fleet)
    (receiver : InstanceKey) : Fleet :=
  match f.devices.get? receiver.device with
  | none => f
  | some d =>
    if d.connection = .disconnected then f.note (.messageDropped sender receiver channel now)
    else
      let f := (f.setInput receiver channel value).toOption.getD f
      { f with communications := f.communications ++ [⟨now, sender, receiver, channel, value⟩] }

def receivers (f : Fleet) (sender : InstanceKey) (channel : String) : List InstanceKey :=
  (f.instances.filter fun i => i.key != sender && i.automaton.inputs.contains channel).map (·.key)

def routeValue (now : Instant) (sender : InstanceKey) (f : Fleet) (sent : String × Value) : Fleet :=
  (f.receivers sender sent.1).foldl (deliver now sender sent.1 sent.2) f

def route (now : Instant) (f : Fleet) (o : Outcome) : Fleet :=
  o.sent.entries.foldl (routeValue now o.key) f

def tick (f : Fleet) (host : Host) (now : Instant) : Fleet × TickReport :=
  let stepped := f.devices.map fun _ d => tickDevice host now d
  let steps := stepped.values.flatMap (·.2)
  let outcomes := steps.filterMap (·.outcome)
  let ticked := {
    devices := stepped.map fun _ s => s.1
    communications := f.communications
    events := f.events ++ steps.flatMap (·.events) : Fleet }
  (outcomes.foldl (route now) ticked, {
    ticked := outcomes.map (·.key)
    fired := .ofEntries (outcomes.filterMap fun o => o.report.fired.map (o.key, ·))
    faulted := (outcomes.filter fun o => !o.report.events.isEmpty && o.report.snapshot.isFaulted).map
      (·.key)
    calls := outcomes.flatMap (·.report.calls) })

-- Take what there is to capture: the snapshots published last, and what has happened since the last
-- time.
def takeFrame (f : Fleet) : Fleet × Capture :=
  ({ f with communications := [], events := [] }, {
    executions := f.instances.map (·.latest)
    devices := f.devices.entries.map fun (name, d) =>
      .of name d.connection (d.instances.values.map (·.latest))
    communications := f.communications
    events := f.events })

end Fleet

end Chronomata
