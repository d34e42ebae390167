import Chronomata.Proofs.Sorted.Map
import Chronomata.Proofs.TimeTravel.Sessions
import Chronomata.Station.Logbook

-- Queues of a journal, told by the session they are for, and what the operations of a logbook do to a
-- session and to its queue.
namespace Chronomata

namespace Queue

instance : Append Queue := ⟨fun q r => ⟨q.events ++ r.events, q.communications ++ r.communications⟩⟩

theorem append_def (q r : Queue) :
    q ++ r = ⟨q.events ++ r.events, q.communications ++ r.communications⟩ := rfl

theorem append_assoc (q r s : Queue) : q ++ r ++ s = q ++ (r ++ s) := by
  simp only [append_def, List.append_assoc]

@[simp] theorem append_empty (q : Queue) : q ++ .empty = q := by
  simp only [append_def, empty, List.append_nil]

end Queue

namespace Journal

-- The queue of a session that has one.
def queue? (j : Journal) (id : SessionId) : Option Queue := j.queues.get? id

theorem queue_of_queue? {j : Journal} {id : SessionId} {q : Queue} (queued : j.queue? id = some q) :
    j.queue id = q := by
  rw [queue, show j.queues.get? id = some q from queued, Option.getD_some]

theorem queue?_record (j : Journal) (events : List Event) (id : SessionId) :
    (j.record events).queue? id = (j.queue? id).map (· ++ ⟨events, []⟩) := by
  simp only [queue?, record, SortedMap.get?_map, Queue.append_def, List.append_nil]

theorem queue?_deliver (j : Journal) (communications : List Communication) (id : SessionId) :
    (j.deliver communications).queue? id = (j.queue? id).map (· ++ ⟨[], communications⟩) := by
  simp only [queue?, deliver, SortedMap.get?_map, Queue.append_def, List.append_nil]

theorem queue?_openQueue (j : Journal) (other id : SessionId) :
    (j.openQueue other).queue? id =
      if id = other then some ((j.queue? id).getD .empty) else j.queue? id :=
  SortedMap.get?_insertNew _ _ _ _

theorem queue?_close (j : Journal) (other id : SessionId) :
    (j.close other).queue? id = if id = other then none else j.queue? id :=
  SortedMap.get?_erase _ _ _

theorem queue?_clear (j : Journal) (other id : SessionId) :
    (j.clear other).queue? id = if id = other then some .empty else j.queue? id :=
  SortedMap.get?_insert _ _ _ _

theorem queue?_retain {j : Journal} {keep : SessionId → Bool} {id : SessionId} {q : Queue} :
    (j.retain keep).queue? id = some q ↔ j.queue? id = some q ∧ keep id = true :=
  SortedMap.get?_filter

end Journal

namespace Logbook

variable {l : Logbook} {now : Instant} {id : SessionId}

theorem isRecording_eq_true :
    l.isRecording id = true ↔ ∃ s, l.travel.session? id = some s ∧ s.isRecording = true := by
  rw [isRecording, Option.any_eq_true]

-- A session that records has its queue after tidying as before.
theorem queue?_tidy {s : Session} (found : l.travel.session? id = some s)
    (records : s.isRecording = true) : l.tidy.journal.queue? id = l.journal.queue? id := by
  have recording := isRecording_eq_true.mpr ⟨s, found, records⟩
  refine Option.ext ?_
  intro q
  show (l.journal.retain l.isRecording).queue? id = some q ↔ _
  rw [Journal.queue?_retain]
  exact and_iff_left recording

theorem queue?_of_tidy {q : Queue} (queued : l.tidy.journal.queue? id = some q) :
    l.journal.queue? id = some q :=
  (Journal.queue?_retain.mp queued).1

theorem startRecording_eq (l : Logbook) (id : SessionId) (options : RecordingOptions)
    (now : Instant) :
    l.startRecording id options now =
      (l.travel.startRecording id options now).map (⟨·, l.journal.openQueue id⟩) := by
  unfold startRecording
  cases l.travel.startRecording id options now <;> rfl

theorem stopRecording_eq (l : Logbook) (id : SessionId) (now : Instant) :
    l.stopRecording id now = (l.travel.stopRecording id now).map (⟨·, l.journal.close id⟩) := by
  unfold stopRecording
  cases l.travel.stopRecording id now <;> rfl

-- What a capture is given: the state that was gathered and the queue of the session.
def content (l : Logbook) (id : SessionId) (executions : List ExecutionSnapshot)
    (devices : List DeviceSummary) : Capture :=
  ⟨executions, devices, (l.tidy.journal.queue id).communications, (l.tidy.journal.queue id).events⟩

theorem append_eq (l : Logbook) (id : SessionId) (executions : List ExecutionSnapshot)
    (devices : List DeviceSummary) (now : Instant) :
    l.append id executions devices now =
      match l.travel.capture id (l.content id executions devices) now with
      | .error cause => (.error cause, l.tidy)
      | .ok (travel, report) => (.ok report, ⟨travel, l.tidy.journal.clear id⟩) := rfl

end Logbook

end Chronomata
