import Chronomata.Proofs.Station.Queues

-- Runs of a logbook: what the tasks of a station do to it, one step after the other in any order.
namespace Chronomata

namespace TimeTravel

variable {id : SessionId} {entry : Entry} {s : Session} {after : Option Session}

-- Operations on the sessions themselves that open, end or fill a session, or put another one in its
-- place.
def Operation.touches (id : SessionId) : Operation → Bool
  | .start other _ | .stop other | .capture other _ => other == id
  | .importArchive archive => archive.session.id == id
  | _ => false

theorem Becomes.untouched (becomes : Becomes id entry (some s) after)
    (spared : entry.operation.touches id = false) :
    (∃ s', after = some s' ∧ s'.isRecording = s.isRecording) ∧ ∀ take, follow id take entry = take := by
  cases becomes with
  | stays _ quiet => exact ⟨⟨s, rfl, rfl⟩, quiet⟩
  | marked _ number name => exact ⟨⟨_, rfl, rfl⟩, fun _ => rfl⟩
  | started options _ => simp [Operation.touches] at spared
  | stopped records => simp [Operation.touches] at spared
  | captured records content => simp [Operation.touches] at spared
  | imported _ same => simp [Operation.touches, same] at spared

-- Sessions are never forgotten.
theorem Becomes.known (becomes : Becomes id entry (some s) after) : ∃ s', after = some s' := by
  cases becomes <;> exact ⟨_, rfl⟩

-- Only a new session under its id makes a session record that is at rest.
theorem Becomes.rests (becomes : Becomes id entry (some s) after) (rests : s.isRecording = false)
    (started : ∀ options, entry.operation ≠ .start id options) :
    ∃ s', after = some s' ∧ s'.isRecording = false := by
  cases becomes with
  | stays => exact ⟨s, rfl, rests⟩
  | started options _ => exact absurd rfl (started options)
  | stopped records => exact ⟨_, rfl, rfl⟩
  | captured records content => exact ⟨_, rfl, rests⟩
  | marked _ number name => exact ⟨_, rfl, rests⟩
  | imported _ same => exact ⟨_, rfl, Session.adopted_isRecording _ _⟩

end TimeTravel

namespace Logbook

-- What a task does with nothing in between. A capture is several steps: what it notices of the devices
-- is recorded, what the gateway observed is delivered, and at last the frame is appended. Opening and
-- stopping touch the sessions before the queues; what is recorded between the two is as good as
-- recorded before both. Sessions may also be operated on directly.
inductive Step where
  | record (events : List Event)
  | deliver (communications : List Communication)
  | start (id : SessionId) (options : RecordingOptions)
  | stop (id : SessionId)
  | append (id : SessionId) (executions : List ExecutionSnapshot) (devices : List DeviceSummary)
  | travel (operation : TimeTravel.Operation)

-- The answer to a stop is kept next to the queue that it drops, and the answer to an append next to
-- what the frame was to be made of.
inductive Answer where
  | noted
  | started (outcome : Except TimeTravelError Unit)
  | stopped (dropped : Queue) (outcome : Except TimeTravelError Unit)
  | appended (content : Capture) (outcome : Except TimeTravelError CaptureReport)
  | travelled (answer : TimeTravel.Answer)

-- What is refused leaves everything as it was.
def settle (l : Logbook) (answer : Except TimeTravelError Unit → Answer) :
    Except TimeTravelError Logbook → Logbook × Answer
  | .ok after => (after, answer (.ok ()))
  | .error cause => (l, answer (.error cause))

def perform (l : Logbook) (now : Instant) : Step → Logbook × Answer
  | .record events => (l.record events, .noted)
  | .deliver communications => (l.deliver communications, .noted)
  | .start id options => l.settle .started (l.startRecording id options now)
  | .stop id => l.settle (.stopped (l.journal.queue id)) (l.stopRecording id now)
  | .append id executions devices =>
    ((l.append id executions devices now).2,
      .appended (l.content id executions devices) (l.append id executions devices now).1)
  | .travel operation =>
    ({ l with travel := (l.travel.perform now operation).1 },
      .travelled (l.travel.perform now operation).2)

structure Entry where
  step : Step
  now : Instant
  answer : Answer

-- Ids of new sessions are drawn at random and name no session that is already there.
def Step.Fresh (t : TimeTravel) : Step → Prop
  | .start id _ | .travel (.start id _) => t.session? id = none
  | _ => True

inductive Runs : Logbook → List Entry → Prop where
  | start : Runs .empty []
  | next {l : Logbook} {log : List Entry} (before : Runs l log) (step : Step) (now : Instant)
      (fresh : step.Fresh l.travel) :
      Runs (l.perform now step).1 (log ++ [⟨step, now, (l.perform now step).2⟩])

-- The line that a step leaves in the log of the sessions.
def Entry.line? : Entry → Option TimeTravel.Entry
  | ⟨.start id options, now, .started outcome⟩ => some ⟨.start id options, now, .done outcome⟩
  | ⟨.stop id, now, .stopped _ outcome⟩ => some ⟨.stop id, now, .done outcome⟩
  | ⟨.append id _ _, now, .appended content outcome⟩ =>
    some ⟨.capture id content, now, .captured outcome⟩
  | ⟨.travel operation, now, .travelled answer⟩ => some ⟨operation, now, answer⟩
  | _ => none

def lines (log : List Entry) : List TimeTravel.Entry := log.filterMap Entry.line?

variable {l : Logbook} {log : List Entry} {now : Instant} {id : SessionId}

theorem lines_append (log : List Entry) (entry : Entry) :
    lines (log ++ [entry]) = lines log ++ entry.line?.toList := by
  rw [lines, List.filterMap_append, List.filterMap_cons, List.filterMap_nil]
  cases entry.line? <;> rfl

-- A step leaves the sessions alone, or it is one operation on them. Only what starts a session is the
-- operation that starts it.
theorem perform_travel (l : Logbook) (now : Instant) (step : Step) :
    ((⟨step, now, (l.perform now step).2⟩ : Entry).line? = none ∧
      (l.perform now step).1.travel = l.travel) ∨
    ∃ operation,
      (⟨step, now, (l.perform now step).2⟩ : Entry).line? =
        some ⟨operation, now, (l.travel.perform now operation).2⟩ ∧
      (l.perform now step).1.travel = (l.travel.perform now operation).1 ∧
      ∀ id options, operation = .start id options → step.Fresh l.travel →
        l.travel.session? id = none := by
  cases step with
  | record events => exact .inl ⟨rfl, rfl⟩
  | deliver communications => exact .inl ⟨rfl, rfl⟩
  | start id options =>
    refine .inr ⟨.start id options, ?_, ?_, ?_⟩
    · simp only [perform, startRecording_eq, TimeTravel.perform]
      cases l.travel.startRecording id options now <;> rfl
    · simp only [perform, startRecording_eq, TimeTravel.perform]
      cases l.travel.startRecording id options now <;> rfl
    · rintro _ _ ⟨⟩ fresh
      exact fresh
  | stop id =>
    refine .inr ⟨.stop id, ?_, ?_, fun _ _ contrary => absurd contrary (by simp)⟩
    · simp only [perform, stopRecording_eq, TimeTravel.perform]
      cases l.travel.stopRecording id now <;> rfl
    · simp only [perform, stopRecording_eq, TimeTravel.perform]
      cases l.travel.stopRecording id now <;> rfl
  | append id executions devices =>
    refine .inr ⟨.capture id (l.content id executions devices), ?_, ?_,
      fun _ _ contrary => absurd contrary (by simp)⟩
    · simp only [perform, append_eq, TimeTravel.perform]
      cases l.travel.capture id (l.content id executions devices) now <;> rfl
    · simp only [perform, append_eq, TimeTravel.perform]
      cases l.travel.capture id (l.content id executions devices) now <;> rfl
  | travel operation =>
    refine .inr ⟨operation, rfl, rfl, ?_⟩
    rintro _ _ rfl fresh
    exact fresh

-- Whatever else is done to it, the sessions of a logbook are those of a run of their own.
theorem Runs.travels (runs : Runs l log) : TimeTravel.Runs l.travel (lines log) := by
  induction runs with
  | start => exact .start
  | @next l log before step now fresh ih =>
    rw [lines_append]
    rcases perform_travel l now step with ⟨quiet, same⟩ | ⟨operation, line, becomes, _⟩
    · rw [quiet, same, Option.toList_none, List.append_nil]
      exact ih
    · rw [line, becomes, Option.toList_some]
      exact ih.next operation now

end Logbook

end Chronomata
