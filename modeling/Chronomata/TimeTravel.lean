import Chronomata.Archive.Basic
import Chronomata.Recording.Recorder
import Chronomata.Replay

-- Time travel: recording sessions with a playhead each, addressed by the ids of the sessions.
namespace Chronomata

inductive TimeTravelError where
  | recorder (cause : RecorderError)
  | replay (cause : ReplayError)
  | unknownSession (id : SessionId)
  deriving DecidableEq

def TimeTravelError.message : TimeTravelError → String
  | .recorder cause => cause.message
  | .replay cause => cause.message
  | .unknownSession id => s!"unknown recording session {id.text}"

structure TimeTravel where
  recorder : Recorder
  playheads : SortedMap SessionId Playhead
  deriving DecidableEq

namespace TimeTravel

def empty : TimeTravel := ⟨.empty, SortedMap.empty⟩

def session? (t : TimeTravel) (id : SessionId) : Option Session := t.recorder.session? id

def find (t : TimeTravel) (id : SessionId) : Except TimeTravelError (Session × Playhead) :=
  match t.session? id, t.playheads.get? id with
  | some s, some p => .ok (s, p)
  | _, _ => .error (.unknownSession id)

def startRecording (t : TimeTravel) (id : SessionId) (options : RecordingOptions) (now : Instant) :
    Except TimeTravelError TimeTravel :=
  match t.recorder.start id options now with
  | .ok recorder => .ok ⟨recorder, t.playheads.insert id .start⟩
  | .error cause => .error (.recorder cause)

def stopRecording (t : TimeTravel) (id : SessionId) (now : Instant) :
    Except TimeTravelError TimeTravel :=
  match t.recorder.stop id now with
  | .ok recorder => .ok { t with recorder }
  | .error cause => .error (.recorder cause)

def capture (t : TimeTravel) (id : SessionId) (capture : Capture) (now : Instant) :
    Except TimeTravelError (TimeTravel × CaptureReport) :=
  match t.recorder.capture id capture now with
  | .ok (recorder, report) => .ok ({ t with recorder }, report)
  | .error cause => .error (.recorder cause)

def frameAt (t : TimeTravel) (id : SessionId) (position : Nat) : Except TimeTravelError Frame := do
  let (s, _) ← t.find id
  (s.frameAt position).mapError .replay

def findFrame (t : TimeTravel) (id : SessionId) (number : UInt64) :
    Except TimeTravelError Frame := do
  let (s, _) ← t.find id
  (s.findFrame number).mapError .replay

def cursor (t : TimeTravel) (id : SessionId) : Except TimeTravelError Nat := do
  let (s, p) ← t.find id
  return p.position s

-- Move the playhead of a session. It is kept also when there is no frame to come to.
def movePlayhead {α : Type} (t : TimeTravel) (id : SessionId)
    (move : Playhead → Session → Except ReplayError α × Playhead) :
    Except TimeTravelError α × TimeTravel :=
  match t.find id with
  | .error e => (.error e, t)
  | .ok (s, p) =>
    let (answer, moved) := move p s
    (answer.mapError .replay, { t with playheads := t.playheads.insert id moved })

def seek (t : TimeTravel) (id : SessionId) (target : Int64) :
    Except TimeTravelError Frame × TimeTravel :=
  t.movePlayhead id fun p s => p.seek s target

def step (t : TimeTravel) (id : SessionId) (delta : Int64) :
    Except TimeTravelError Frame × TimeTravel :=
  t.movePlayhead id fun p s => p.step s delta

def jump (t : TimeTravel) (id : SessionId) (name : String) :
    Except TimeTravelError Frame × TimeTravel :=
  t.movePlayhead id fun p s => p.jump s name

-- Let the playhead move on by itself. The answer is the time between two moves.
def play (t : TimeTravel) (id : SessionId) (speed : Float) :
    Except TimeTravelError Span × TimeTravel :=
  t.movePlayhead id fun p s => p.play s speed

def pause (t : TimeTravel) (id : SessionId) : Except TimeTravelError Unit × TimeTravel :=
  t.movePlayhead id fun p _ => (.ok (), p.pause)

def isPlaying (t : TimeTravel) (id : SessionId) : Except TimeTravelError Bool := do
  let (_, p) ← t.find id
  return p.isPlaying

def advance (t : TimeTravel) (id : SessionId) : Except TimeTravelError (Option Frame) × TimeTravel :=
  t.movePlayhead id fun p s => p.advance s

def bookmark (t : TimeTravel) (id : SessionId) (name : String) (now : Instant) :
    Except TimeTravelError (TimeTravel × Bookmark) := do
  let (s, p) ← t.find id
  let (bookmark, s) ← (p.bookmark s name now).mapError .replay
  return ({ t with recorder := t.recorder.store s }, bookmark)

def exportSession (t : TimeTravel) (id : SessionId) (now : Instant) :
    Except TimeTravelError Archive := do
  let (s, _) ← t.find id
  return .ofSession s now

def importArchive (t : TimeTravel) (a : Archive) (now : Instant) : TimeTravel where
  recorder := t.recorder.adopt a.session now
  playheads := t.playheads.insert a.session.id .start

end TimeTravel

end Chronomata
