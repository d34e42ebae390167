import Chronomata.Recording.SessionId
import Chronomata.Snapshot.Basic
import Chronomata.TimeTravel

-- The sessions of a station, and the journal of what they have not captured yet. Appending a frame takes the
-- queue of its session if, and only if, the frame is appended.
namespace Chronomata

-- What has happened and is not captured yet, kept in a queue for every session. Every open session sees
-- everything once, whichever of them captures first.
structure Queue where
  events : List Event
  communications : List Communication
  deriving DecidableEq

def Queue.empty : Queue := ⟨[], []⟩

structure Journal where
  queues : SortedMap SessionId Queue
  deriving DecidableEq

namespace Journal

def empty : Journal := ⟨SortedMap.empty⟩

-- The queue of a session; a session that is not open has an empty one.
def queue (j : Journal) (id : SessionId) : Queue := (j.queues.get? id).getD .empty

def openQueue (j : Journal) (id : SessionId) : Journal := ⟨j.queues.insertNew id .empty⟩

def close (j : Journal) (id : SessionId) : Journal := ⟨j.queues.erase id⟩

def record (j : Journal) (events : List Event) : Journal :=
  ⟨j.queues.map fun _ q => { q with events := q.events ++ events }⟩

def deliver (j : Journal) (communications : List Communication) : Journal :=
  ⟨j.queues.map fun _ q => { q with communications := q.communications ++ communications }⟩

def clear (j : Journal) (id : SessionId) : Journal := ⟨j.queues.insert id .empty⟩

def retain (j : Journal) (keep : SessionId → Bool) : Journal :=
  ⟨j.queues.filter fun id _ => keep id⟩

end Journal

structure Logbook where
  travel : TimeTravel
  journal : Journal
  deriving DecidableEq

namespace Logbook

def empty : Logbook := ⟨.empty, .empty⟩

def record (l : Logbook) (events : List Event) : Logbook :=
  { l with journal := l.journal.record events }

def deliver (l : Logbook) (communications : List Communication) : Logbook :=
  { l with journal := l.journal.deliver communications }

def startRecording (l : Logbook) (id : SessionId) (options : RecordingOptions) (now : Instant) :
    Except TimeTravelError Logbook := do
  let travel ← l.travel.startRecording id options now
  return ⟨travel, l.journal.openQueue id⟩

-- End a recording. What it has not captured is dropped.
def stopRecording (l : Logbook) (id : SessionId) (now : Instant) :
    Except TimeTravelError Logbook := do
  let travel ← l.travel.stopRecording id now
  return ⟨travel, l.journal.close id⟩

def isRecording (l : Logbook) (id : SessionId) : Bool :=
  (l.travel.session? id).any (·.isRecording)

def tidy (l : Logbook) : Logbook := { l with journal := l.journal.retain l.isRecording }

-- Append a frame to a session: the state that was gathered, and the queue of the session. A session
-- that does not record loses nothing by it, and neither does any other.
def append (l : Logbook) (id : SessionId) (executions : List ExecutionSnapshot)
    (devices : List DeviceSummary) (now : Instant) :
    Except TimeTravelError CaptureReport × Logbook :=
  let l := l.tidy
  let queue := l.journal.queue id
  match l.travel.capture id ⟨executions, devices, queue.communications, queue.events⟩ now with
  | .error e => (.error e, l)
  | .ok (travel, report) => (.ok report, ⟨travel, l.journal.clear id⟩)

end Logbook

end Chronomata
