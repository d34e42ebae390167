import Chronomata.Fleet
import Chronomata.Gateway
import Chronomata.Station.Logbook

-- Instances that tick on their own, sessions that capture on their own, and a playback that moves on its own,
-- all by timers of one clock. What the gateway refuses stops nothing.
namespace Chronomata

-- A timer. Its times are nanoseconds on the clock of the station.
structure Timer where
  due : Nat
  period : Nat
  deriving DecidableEq, Repr

def Timer.next (t : Timer) : Timer := { t with due := t.due + t.period }

def Timer.count (t : Timer) (limit : Nat) : Nat :=
  if limit < t.due then 0 else (limit - t.due) / t.period + 1

structure Screening where
  session : SessionId
  timer : Timer
  deriving DecidableEq

structure Station where
  host : Host
  tickInterval : Span
  gateway : Gateway
  clock : Nat
  instances : SortedMap InstanceKey Instance
  tickTimers : SortedMap InstanceKey Timer
  connections : SortedMap String Connection
  logbook : Logbook
  captureTimers : SortedMap SessionId Timer
  screening : Option Screening
  feed : Option Frame
  calls : List Call

namespace Station

def new (host : Host) (gateway : Gateway) (tickInterval : Span) : Station where
  host := host
  tickInterval := tickInterval
  gateway := gateway
  clock := 0
  instances := SortedMap.empty
  tickTimers := SortedMap.empty
  connections := SortedMap.empty
  logbook := .empty
  captureTimers := SortedMap.empty
  screening := none
  feed := none
  calls := []

def timer (s : Station) (period : Span) : Timer := ⟨s.clock, period.toNanoseconds⟩

def record (s : Station) (events : List Event) : Station :=
  { s with logbook := s.logbook.record events }

def travel (s : Station) : TimeTravel := s.logbook.travel

def withTravel (s : Station) (travel : TimeTravel) : Station :=
  { s with logbook := { s.logbook with travel } }

-- Start an instance of an automaton on a device. It need not become known to the gateway.
def spawn (s : Station) (device : String) (a : Automaton) (now : Instant) :
    Except EngineError (Station × InstanceKey) := do
  let created := Instance.new device a now
  let key := created.key
  if s.instances.contains key then throw (.duplicateInstance key)
  let started ← created.start now
  let spawned := { s with
    gateway := ((s.gateway.register key a.inputs.toList).toOption).getD s.gateway
    instances := s.instances.insert key started
    tickTimers := s.tickTimers.insert key (s.timer s.tickInterval) }
  return (spawned.record [.lifecycle key "started" now], key)

-- Ask one instance to change its run state. A change that the run state does not allow is left out.
def command (s : Station) (key : InstanceKey)
    (change : Instance → Except EngineError Instance) : Except EngineError Station :=
  match s.instances.get? key with
  | none => .error (.unknownInstance key)
  | some i => .ok { s with instances := s.instances.insert key ((change i).toOption.getD i) }

def pauseInstance (s : Station) (key : InstanceKey) (now : Instant) : Except EngineError Station :=
  s.command key (·.pause now)

def resumeInstance (s : Station) (key : InstanceKey) (now : Instant) : Except EngineError Station :=
  s.command key (·.resume now)

def latest? (s : Station) (key : InstanceKey) : Option ExecutionSnapshot :=
  (s.instances.get? key).map (·.latest)

def send (s : Station) (key : InstanceKey) (sent : Values) (now : Instant) : Station :=
  if sent.isEmpty then s
  else { s with gateway := ((s.gateway.deliver key sent now).toOption).getD s.gateway }

def driveReachable (s : Station) (i : Instance) (now : Instant) : Station :=
  let (gateway, inputs) := ((s.gateway.fetch i.key).toOption).getD (s.gateway, [])
  let i := i.setInputs inputs
  match i.tick s.host now with
  | .error cause =>
    ({ s with gateway, instances := s.instances.insert i.key i } : Station).record
      [.tickFailed i.key cause now]
  | .ok (after, report) =>
    let ticked := { s with
      gateway
      instances := s.instances.insert i.key after
      calls := s.calls ++ report.calls }
    (ticked.record report.events).send i.key
      (Fleet.channelValues i.automaton report.emitted) now

-- One turn of the timer of an instance. Only a running one on a reachable device ticks.
def drive (s : Station) (key : InstanceKey) (now : Instant) : Station :=
  match s.instances.get? key, s.gateway.status key.device with
  | some i, .ok .connected => if i.runState = .running then s.driveReachable i now else s
  | _, _ => s

-- Ask whether a device can be reached, and note a change. A gateway that does not say so counts as
-- no.
def observe (now : Instant) (s : Station) (device : String) : Station × Connection :=
  let connection := ((s.gateway.status device).toOption).getD .disconnected
  let events := match s.connections.get? device with
    | some before =>
      if before = connection then [] else [Event.connectionChanged device connection now]
    | none => []
  (({ s with connections := s.connections.insert device connection } : Station).record events,
    connection)

def summarize (now : Instant) (executions : List ExecutionSnapshot) :
    List String → Station → Station × List DeviceSummary
  | [], s => (s, [])
  | device :: rest, s =>
    let (s, connection) := observe now s device
    let (s, summaries) := summarize now executions rest s
    (s, .of device connection (executions.filter (·.key.device == device)) :: summaries)

def gather (s : Station) (now : Instant) : Station × List ExecutionSnapshot × List DeviceSummary :=
  let executions := s.instances.values.map (·.latest)
  let devices := (SortedSet.ofList (executions.map (·.key.device))).toList
  let (s, summaries) := summarize now executions devices s
  (s, executions, summaries)

def collect (s : Station) : Station :=
  match s.gateway.drain with
  | .ok (gateway, communications) =>
    { s with gateway, logbook := s.logbook.deliver communications }
  | .error _ => s

def capture (s : Station) (id : SessionId) (now : Instant) :
    Except TimeTravelError CaptureReport × Station :=
  let (s, executions, devices) := s.gather now
  let s := s.collect
  let (answer, logbook) := s.logbook.append id executions devices now
  (answer, { s with logbook })

def startRecording (s : Station) (id : SessionId) (options : RecordingOptions) (now : Instant) :
    Except TimeTravelError Station := do
  let logbook ← s.logbook.startRecording id options now
  return { s with
    logbook, captureTimers := s.captureTimers.insert id (s.timer options.interval) }

def stopRecording (s : Station) (id : SessionId) (now : Instant) :
    Except TimeTravelError Station := do
  let logbook ← s.logbook.stopRecording id now
  return { s with logbook, captureTimers := s.captureTimers.erase id }

def stopPlayback (s : Station) : Station :=
  match s.screening with
  | none => s
  | some screening => { s.withTravel (s.travel.pause screening.session).2 with screening := none }

-- Play a session back from where its playhead stands, in place of what was played before.
def play (s : Station) (id : SessionId) (speed : Float) : Except TimeTravelError Span × Station :=
  let s := s.stopPlayback
  match s.travel.play id speed with
  | (.error e, travel) => (.error e, s.withTravel travel)
  | (.ok pacing, travel) =>
    let s := s.withTravel travel
    match (travel.cursor id).bind (travel.frameAt id) with
    | .error e => (.error e, s)
    | .ok frame => (.ok pacing, { s with
        feed := some frame
        screening := some ⟨id, (s.timer pacing).next⟩ })

-- Move playback on by one frame. It ends where there is no further one.
def playOn (s : Station) (screening : Screening) : Station :=
  match s.travel.advance screening.session with
  | (.ok (some frame), travel) => { s.withTravel travel with
      feed := some frame
      screening := some { screening with timer := screening.timer.next } }
  | (_, travel) => { s.withTravel travel with screening := none }

inductive Alarm where
  | tick (key : InstanceKey)
  | capture (id : SessionId)
  | playback (screening : Screening)
  deriving DecidableEq

def timers (s : Station) : List (Timer × Alarm) :=
  s.tickTimers.entries.map (fun e => (e.2, .tick e.1))
    ++ s.captureTimers.entries.map (fun e => (e.2, .capture e.1))
    ++ s.screening.toList.map fun screening => (screening.timer, .playback screening)

def next? (s : Station) (limit : Nat) : Option (Timer × Alarm) :=
  (s.timers.filter (·.1.due ≤ limit)).foldl (fun first t =>
    match first with
    | some f => if t.1.due < f.1.due then some t else some f
    | none => some t) none

-- Let a timer go off. Captures end with the first one that fails.
def ring (s : Station) (t : Timer) (alarm : Alarm) (now : Instant) : Station :=
  match alarm with
  | .tick key => { s with tickTimers := s.tickTimers.insert key t.next }.drive key now
  | .capture id =>
    let (answer, s) := s.capture id now
    { s with captureTimers := match answer with
        | .ok _ => s.captureTimers.insert id t.next
        | .error _ => s.captureTimers.erase id }
  | .playback screening => s.playOn screening

def runUntil (limit : Nat) (now : Instant) : Nat → Station → Station
  | 0, s => s
  | fuel + 1, s =>
    match s.next? limit with
    | none => s
    | some (t, alarm) =>
      runUntil limit now fuel ({ s with clock := max s.clock t.due }.ring t alarm now)

-- Let time pass. Fuel is how often timers go off at most.
def advance (s : Station) (nanoseconds : Nat) (now : Instant) : Station :=
  let limit := s.clock + nanoseconds
  let rings := s.timers.foldr (fun t rings => t.1.count limit + rings) 0
  { runUntil limit now rings s with clock := limit }

def settle (s : Station) (now : Instant) : Station := s.advance 0 now

def retire (now : Instant) (s : Station) (key : InstanceKey) : Station :=
  ((s.command key (·.stop now)).toOption.getD s).record [.lifecycle key "stopped" now]

-- Stop everything. The snapshots that were published last stay.
def shutdown (s : Station) (now : Instant) : Station :=
  let still := { s.stopPlayback with captureTimers := SortedMap.empty, tickTimers := SortedMap.empty }
  still.instances.keys.foldl (retire now) still

end Station

end Chronomata
