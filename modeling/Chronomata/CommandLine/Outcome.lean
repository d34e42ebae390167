import Chronomata.Archive.Binary
import Chronomata.CommandLine.Options
import Chronomata.Station.Basic

-- What the program does with its options: everything but reading and writing files and printing.
namespace Chronomata.CommandLine

inductive Output where
  | nothing
  | help
  | line (text : String)
  | snapshot (latest : ExecutionSnapshot)
  deriving DecidableEq

structure Outcome where
  code : UInt32
  output : Output
  complaint : Option String
  archive : Option (String × List UInt8)
  deriving DecidableEq

namespace Outcome

def success (output : Output) : Outcome := ⟨0, output, none, none⟩

def failure (output : Output) (complaint : Option String) : Outcome := ⟨1, output, complaint, none⟩

def unwritten (o : Outcome) (path : String) : Outcome :=
  { o with code := 1, complaint := some s!"Error: writing archive {path}", archive := none }

end Outcome

abbrev Files := String → Place

def readConfig (files : Files) (o : Options) : Except Outcome Config := do
  let config ← match o.config with
    | none => .ok Config.default
    | some path => match Config.ofFile path (files path) with
      | .ok config => .ok config
      | .error (.missingFile path) => .error (.failure (.line s!"File not found: {path}") none)
      | .error _ => .error (.failure .nothing (some s!"Error: loading config {path}"))
  return { config with mode := o.mode.getD config.mode }

-- The automaton in a file. A missing file is no error to complain about, but to tell.
def readAutomaton (files : Files) (path : String) : Except Outcome Automaton :=
  match Automaton.ofFile path (files path) with
  | .ok a => .ok a
  | .error (e@(.missingFile _)) => .error (.failure (.line e.message) none)
  | .error e => .error (.failure .nothing (some s!"error: {e.message}"))

def summary (a : Automaton) : String :=
  s!"{a.id} is valid: {a.states.size} states, {a.transitions.size} transitions"

-- Why a run was given up.
inductive RunError where
  | engine (cause : EngineError)
  | travel (cause : TimeTravelError)
  | disappeared
  deriving DecidableEq

def RunError.message : RunError → String
  | .engine cause => cause.message
  | .travel cause => cause.message
  | .disappeared => "instance disappeared during run"

-- How the instance ended, and the archive of the run if it was recorded.
abbrev Leavings := ExecutionSnapshot × Option Archive

-- A fleet with one device, on which an instance has been started.
def launch (c : Config) (a : Automaton) (now : Instant) : Except RunError (Fleet × InstanceKey) :=
  (do
    let (f, key) ← (Fleet.empty.addDevice c.device).deploy c.device a now
    return (← f.start key now, key)).mapError .engine

-- Tick a fleet, and capture what has become of it if there is a session.
def tickOnce (session : Option SessionId) (now : Instant) (f : Fleet) (t : TimeTravel) :
    Except RunError (Fleet × TimeTravel) :=
  let (f, _) := f.tick .literal now
  match session with
  | none => .ok (f, t)
  | some id =>
    let (f, capture) := f.takeFrame
    ((t.capture id capture now).mapError .travel).map fun (t, _) => (f, t)

-- Tick a fleet `count` times more. The clock says when each tick is made, by the number of it.
def tickFleet (session : Option SessionId) (clock : Nat → Instant) :
    (count passed : Nat) → Fleet → TimeTravel → Except RunError (Fleet × TimeTravel)
  | 0, _, f, t => .ok (f, t)
  | count + 1, passed, f, t => do
    let (f, t) ← tickOnce session (clock (passed + 1)) f t
    tickFleet session clock count (passed + 1) f t

def startSession (c : Config) (session : Option SessionId) (now : Instant) :
    Except RunError TimeTravel :=
  match session with
  | none => .ok .empty
  | some id => (TimeTravel.empty.startRecording id c.recordingOptions now).mapError .travel

-- The archive of a session, which ends here.
def endSession (t : TimeTravel) (session : Option SessionId) (now : Instant) :
    Except RunError (Option Archive) :=
  match session with
  | none => .ok none
  | some id => (do
    let t ← t.stopRecording id now
    return some (← t.exportSession id now) : Except TimeTravelError _).mapError .travel

-- Everything before the first tick is done at the start of the clock, and everything after the last
-- tick at the end of the run.
def runDetached (c : Config) (a : Automaton) (session : Option SessionId) (count : Nat)
    (clock : Nat → Instant) : Except RunError Leavings := do
  let (f, key) ← launch c a (clock 0)
  let t ← startSession c session (clock 0)
  let (f, t) ← tickFleet session clock count 0 f t
  match f.instance? key with
  | none => .error .disappeared
  | some i => return (i.latest, ← endSession t session (clock (count + 1)))

def duration (c : Config) (count : Nat) : Nat :=
  c.tickInterval.toNanoseconds * min count (UInt32.size - 1)

def runNetwork (c : Config) (a : Automaton) (session : Option SessionId) (count : Nat)
    (now : Instant) : Except RunError Leavings := do
  let (s, key) ← ((Station.new .literal .empty c.tickInterval).spawn c.device a now).mapError .engine
  let s ← match session with
    | none => .ok s
    | some id => (s.startRecording id c.recordingOptions now).mapError .travel
  let s := s.advance (duration c count) now
  match s.latest? key with
  | none => .error .disappeared
  | some latest => return (latest, ← endSession s.travel session now)

-- Run an automaton. The id is for the session, if there is to be one.
def run (c : Config) (a : Automaton) (o : Options) (id : SessionId) (now : Instant) : Outcome :=
  let session := o.record.map fun _ => id
  let leavings := match c.mode with
    | .detached => runDetached c a session o.tickCount fun _ => now
    | .network => runNetwork c a session o.tickCount now
  match leavings with
  | .error cause => .failure .nothing (some s!"Error: {cause.message}")
  | .ok (latest, archive) => { Outcome.success (.snapshot latest) with
      archive := o.record.bind fun path =>
        archive.map fun archive => (path, Archive.fileBytes path archive) }

def perform (files : Files) (o : Options) (id : SessionId) (now : Instant) :
    Except Outcome Outcome := do
  let config ← readConfig files o
  match o.validate, o.run with
  | some path, _ =>
    let a ← readAutomaton files path
    return .success (.line (summary a))
  | none, some path =>
    let a ← readAutomaton files path
    return run config a o id now
  | none, none => return .success .help

def versionLine : String := "aetherium 0.1.0"

def execute (files : Files) (words : List String) (id : SessionId) (now : Instant) : Outcome :=
  match readOptions words with
  | .error .help => .success .help
  | .error .version => .success (.line versionLine)
  | .error .misuse => { Outcome.failure .nothing none with code := 2 }
  | .ok o => match perform files o id now with
    | .ok outcome | .error outcome => outcome

end Chronomata.CommandLine
