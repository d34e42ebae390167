import Chronomata.Recording.Session

-- Recorders: recording sessions by their ids.
namespace Chronomata

inductive RecorderError where
  | unknownSession (id : SessionId)
  | notRecording (id : SessionId)
  | noRoom
  | noInterval
  deriving DecidableEq

namespace RecorderError

def message : RecorderError → String
  | unknownSession id => s!"unknown recording session {id.text}"
  | notRecording id => s!"session {id.text} is not recording"
  | noRoom => "invalid recording options: max_snapshots must be at least 1"
  | noInterval => "invalid recording options: capture_interval must be positive"

end RecorderError

structure Recorder where
  sessions : SortedMap SessionId Session
  deriving DecidableEq

namespace Recorder

def empty : Recorder := ⟨SortedMap.empty⟩

def session? (r : Recorder) (id : SessionId) : Option Session := r.sessions.get? id

def store (r : Recorder) (s : Session) : Recorder := ⟨r.sessions.insert s.id s⟩

def start (r : Recorder) (id : SessionId) (options : RecordingOptions) (now : Instant) :
    Except RecorderError Recorder :=
  if options.maxSnapshots = 0 then .error .noRoom
  else if options.interval.isZero then .error .noInterval
  else .ok (r.store (.new id options now))

def recording (r : Recorder) (id : SessionId) : Except RecorderError Session :=
  match r.session? id with
  | none => .error (.unknownSession id)
  | some s => if s.isRecording then .ok s else .error (.notRecording id)

def stop (r : Recorder) (id : SessionId) (now : Instant) : Except RecorderError Recorder :=
  (r.recording id).map fun s => r.store (s.finish now)

def capture (r : Recorder) (id : SessionId) (capture : Capture) (now : Instant) :
    Except RecorderError (Recorder × CaptureReport) :=
  (r.recording id).map fun s =>
    let (s, report) := s.append capture now
    (r.store s, report)

-- Take over a session from elsewhere. It is never recording afterwards.
def adopt (r : Recorder) (s : Session) (now : Instant) : Recorder :=
  r.store (if s.isRecording then s.finish now else s)

def remove (r : Recorder) (id : SessionId) : Recorder := ⟨r.sessions.erase id⟩

end Recorder

end Chronomata
