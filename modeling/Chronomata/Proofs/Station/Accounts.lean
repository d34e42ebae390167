import Chronomata.Proofs.Station.Runs

-- The frames of a session, in order, and after them its queue hold what was recorded and delivered since it
-- was opened, everything once.
namespace Chronomata

-- What the frames of a session hold of what happened, the dropped frames included.
def Take.written (take : Take) : Queue :=
  ⟨take.recorded.flatMap (·.events), take.recorded.flatMap (·.communications)⟩

theorem Take.written_add (take : Take) (c : Captured) :
    (take.add c).written = take.written ++ ⟨c.content.events, c.content.communications⟩ := by
  simp only [written, recorded_add, Queue.append_def, Captured.frame, List.flatMap_append,
    List.flatMap_cons, List.flatMap_nil, List.append_nil]

namespace Logbook

-- A session as the log tells it: whether it is open, what was seen while it was, and what its queue held
-- when it was stopped.
structure Tally where
  isOpen : Bool
  seen : Queue
  dropped : Queue

namespace Tally

def opened : Tally := ⟨true, .empty, .empty⟩

def add (q : Queue) (tally : Tally) : Tally :=
  if tally.isOpen then { tally with seen := tally.seen ++ q } else tally

def close (dropped : Queue) (tally : Tally) : Tally :=
  if tally.isOpen then { tally with isOpen := false, dropped } else tally

end Tally

-- A session that is operated on directly is the station's own no longer.
def follow (id : SessionId) (tally : Option Tally) : Entry → Option Tally
  | ⟨.record events, _, _⟩ => tally.map (.add ⟨events, []⟩)
  | ⟨.deliver communications, _, _⟩ => tally.map (.add ⟨[], communications⟩)
  | ⟨.start other _, _, .started (.ok _)⟩ => if other = id then some .opened else tally
  | ⟨.stop other, _, .stopped dropped (.ok _)⟩ =>
    if other = id then tally.map (.close dropped) else tally
  | ⟨.travel operation, _, _⟩ => if operation.touches id then none else tally
  | _ => tally

def tally? (id : SessionId) (log : List Entry) : Option Tally := log.foldl (follow id) none

-- What a step adds to the take of a session.
def Entry.extend (id : SessionId) (take : Option Take) (entry : Entry) : Option Take :=
  entry.line?.toList.foldl (TimeTravel.follow id) take

theorem take?_append (id : SessionId) (log : List Entry) (entry : Entry) :
    TimeTravel.take? id (lines (log ++ [entry])) =
      entry.extend id (TimeTravel.take? id (lines log)) := by
  rw [lines_append]
  exact List.foldl_append

theorem tally?_append (id : SessionId) (log : List Entry) (entry : Entry) :
    tally? id (log ++ [entry]) = follow id (tally? id log) entry := by
  rw [tally?, List.foldl_append]
  rfl

-- Nothing is lost and nothing is there twice.
structure Balanced (tally : Tally) (take : Take) (s : Session) (queued : Option Queue) : Prop where
  recording : s.isRecording = tally.isOpen
  running : tally.isOpen = true → ∃ q, queued = some q ∧ take.written ++ q = tally.seen
  ended : tally.isOpen = false → take.written ++ tally.dropped = tally.seen

def Accounts (id : SessionId) (l : Logbook) (take : Option Take) (tally : Option Tally) : Prop :=
  ∀ told, tally = some told → ∃ kept s, take = some kept ∧ l.travel.session? id = some s ∧
    Balanced told kept s (l.journal.queue? id)

structure Sound (l : Logbook) (log : List Entry) : Prop where
  known : ∀ {id q}, l.journal.queue? id = some q → ∃ s, l.travel.session? id = some s
  accounts : ∀ id, Accounts id l (TimeTravel.take? id (lines log)) (tally? id log)

variable {l after : Logbook} {log : List Entry} {now : Instant} {id : SessionId}

theorem Sound.next {entry : Entry} (sound : Sound l log)
    (known : ∀ {id q}, after.journal.queue? id = some q → ∃ s, after.travel.session? id = some s)
    (accounts : ∀ {id take tally}, Accounts id l take tally →
      Accounts id after (entry.extend id take) (follow id tally entry)) :
    Sound after (log ++ [entry]) := by
  refine ⟨known, ?_⟩
  intro id
  rw [take?_append, tally?_append]
  exact accounts (sound.accounts id)

-- A session that a step is not about keeps its account.
theorem Accounts.frame {take : Option Take} {tally : Option Tally} (accounts : Accounts id l take tally)
    (session : after.travel.session? id = l.travel.session? id)
    (queue : ∀ {s}, l.travel.session? id = some s → s.isRecording = true →
      after.journal.queue? id = l.journal.queue? id) :
    Accounts id after take tally := by
  intro told same
  obtain ⟨kept, s, taken, found, recording, running, ended⟩ := accounts told same
  refine ⟨kept, s, taken, session.trans found, recording, ?_, ended⟩
  intro isOpen
  rw [queue found (recording.trans isOpen)]
  exact running isOpen

-- What is put into every queue is seen by every open session.
theorem Sound.post {entry : Entry} {q : Queue} (sound : Sound l log) (quiet : entry.line? = none)
    (follows : ∀ id tally, follow id tally entry = tally.map (.add q))
    (travel : after.travel = l.travel)
    (journal : ∀ id, after.journal.queue? id = (l.journal.queue? id).map (· ++ q)) :
    Sound after (log ++ [entry]) := by
  refine sound.next ?_ ?_
  · intro id queue queued
    rw [journal, Option.map_eq_some_iff] at queued
    obtain ⟨before, queued, _⟩ := queued
    rw [travel]
    exact sound.known queued
  · intro id take tally accounts told same
    rw [follows, Option.map_eq_some_iff] at same
    obtain ⟨tally, rfl, rfl⟩ := same
    obtain ⟨kept, s, taken, found, recording, running, ended⟩ := accounts tally rfl
    rw [Entry.extend, quiet, travel, journal]
    refine ⟨kept, s, taken, found, ?_⟩
    cases isOpen : tally.isOpen with
    | true =>
      obtain ⟨before, queued, whole⟩ := running isOpen
      rw [Tally.add, if_pos isOpen, queued, Option.map_some]
      refine ⟨recording, fun _ => ⟨before ++ q, rfl, ?_⟩, ?_⟩
      · rw [← Queue.append_assoc, whole]
      · exact fun closed => Bool.noConfusion (isOpen.symm.trans closed)
    | false =>
      rw [Tally.add, if_neg (by rw [isOpen]; decide)]
      exact ⟨recording, fun opened => Bool.noConfusion (isOpen.symm.trans opened), ended⟩

-- A step that stores one session and takes nothing from the queues of others is judged by the account
-- of that session.
theorem Sound.store {entry : Entry} {s : Session} {playheads : SortedMap SessionId Playhead}
    {journal : Journal} (sound : Sound l log) (filed : s.id = id)
    (queues : ∀ {other q}, other ≠ id → journal.queue? other = some q →
      l.journal.queue? other = some q)
    (spares : ∀ {other s}, other ≠ id → l.travel.session? other = some s → s.isRecording = true →
      journal.queue? other = l.journal.queue? other)
    (others : ∀ {other}, other ≠ id →
      (∀ take, entry.extend other take = take) ∧ ∀ tally, follow other tally entry = tally)
    (own : ∀ {take tally told}, Accounts id l take tally → follow id tally entry = some told →
      ∃ kept, entry.extend id take = some kept ∧ Balanced told kept s (journal.queue? id)) :
    Sound ⟨⟨l.travel.recorder.store s, playheads⟩, journal⟩ (log ++ [entry]) := by
  have stored := TimeTravel.session?_store l.travel.recorder playheads s
  rw [filed] at stored
  refine sound.next ?_ ?_
  · intro other q queued
    rw [stored]
    split
    · exact ⟨s, rfl⟩
    · rename_i different
      exact sound.known (queues different queued)
  · intro other take tally accounts
    by_cases same : other = id
    · subst same
      intro told follows
      obtain ⟨kept, taken, balanced⟩ := own accounts follows
      exact ⟨kept, s, taken, (stored other).trans (if_pos rfl), balanced⟩
    · obtain ⟨quiet, still⟩ := others same
      rw [quiet, still]
      exact accounts.frame ((stored other).trans (if_neg same)) (spares same)

theorem Sound.start {options : RecordingOptions} (sound : Sound l log)
    (fresh : l.travel.session? id = none) :
    Sound (l.perform now (.start id options)).1
      (log ++ [⟨.start id options, now, (l.perform now (.start id options)).2⟩]) := by
  simp only [perform, startRecording_eq]
  cases started : l.travel.startRecording id options now with
  | error cause => exact sound.next sound.known fun accounts => accounts
  | ok travel =>
    obtain rfl := TimeTravel.startRecording_eq_ok started
    -- Only known sessions have queues, and a new id is not known.
    have unqueued : l.journal.queue? id = none := by
      refine Option.eq_none_iff_forall_ne_some.mpr ?_
      intro q queued
      obtain ⟨s, found⟩ := sound.known queued
      cases fresh.symm.trans found
    have journal := l.journal.queue?_openQueue id
    refine sound.store (show (Session.new id options now).id = id from rfl) ?_ ?_ ?_ ?_
    · intro other q different queued
      exact ((journal other).trans (if_neg different)).symm.trans queued
    · exact fun different _ _ => (journal _).trans (if_neg different)
    · exact fun different => ⟨fun _ => if_neg (Ne.symm different), fun _ => if_neg (Ne.symm different)⟩
    · intro take tally told _ opened
      cases (show some Tally.opened = some told from (if_pos rfl).symm.trans opened)
      refine ⟨⟨options.maxSnapshots, []⟩, if_pos rfl, rfl, ?_, fun closed => Bool.noConfusion closed⟩
      intro _
      refine ⟨.empty, ?_, rfl⟩
      rw [journal, if_pos rfl, unqueued, Option.getD_none]

theorem Sound.stop (sound : Sound l log) (runs : Runs l log) :
    Sound (l.perform now (.stop id)).1 (log ++ [⟨.stop id, now, (l.perform now (.stop id)).2⟩]) := by
  simp only [perform, stopRecording_eq]
  cases stopped : l.travel.stopRecording id now with
  | error cause => exact sound.next sound.known fun accounts => accounts
  | ok travel =>
    obtain ⟨s, found, records, rfl⟩ := TimeTravel.stopRecording_eq_ok stopped
    have filed : s.id = id := ((TimeTravel.runs_sound runs.travels).filed found).1
    have journal := l.journal.queue?_close id
    refine sound.store (show (s.finish now).id = id from filed) ?_ ?_ ?_ ?_
    · intro other q different queued
      exact ((journal other).trans (if_neg different)).symm.trans queued
    · exact fun different _ _ => (journal _).trans (if_neg different)
    · exact fun different => ⟨fun _ => rfl, fun _ => if_neg (Ne.symm different)⟩
    · intro take tally told accounts ended
      obtain ⟨tally, rfl, rfl⟩ :=
        Option.map_eq_some_iff.mp (show tally.map (.close (l.journal.queue id)) = some told from
          (if_pos rfl).symm.trans ended)
      obtain ⟨kept, _, taken, found', recording, running, _⟩ := accounts tally rfl
      cases found.symm.trans found'
      have isOpen : tally.isOpen = true := recording.symm.trans records
      obtain ⟨q, queued, whole⟩ := running isOpen
      rw [Tally.close, if_pos isOpen, Journal.queue_of_queue? queued]
      exact ⟨kept, taken, rfl, fun opened => Bool.noConfusion opened, fun _ => whole⟩

theorem Sound.append (sound : Sound l log) (runs : Runs l log) (executions : List ExecutionSnapshot)
    (devices : List DeviceSummary) :
    Sound (l.perform now (.append id executions devices)).1
      (log ++ [⟨.append id executions devices, now,
        (l.perform now (.append id executions devices)).2⟩]) := by
  simp only [perform, append_eq]
  cases captured : l.travel.capture id (l.content id executions devices) now with
  | error cause =>
    refine sound.next ?_ ?_
    · exact fun queued => sound.known (queue?_of_tidy queued)
    · exact fun accounts => accounts.frame rfl queue?_tidy
  | ok both =>
    obtain ⟨s, found, records⟩ := TimeTravel.recording_of_capture captured
    obtain rfl := Except.ok.inj ((TimeTravel.capture_of_records found records _ now).symm.trans captured)
    have filed : s.id = id := ((TimeTravel.runs_sound runs.travels).filed found).1
    have journal := l.tidy.journal.queue?_clear id
    refine sound.store
      (show (s.append (l.content id executions devices) now).1.id = id from filed) ?_ ?_ ?_ ?_
    · intro other q different queued
      exact queue?_of_tidy (((journal other).trans (if_neg different)).symm.trans queued)
    · intro other s different found records
      exact (journal other).trans ((if_neg different).trans (queue?_tidy found records))
    · exact fun different => ⟨fun _ => if_neg (Ne.symm different), fun _ => rfl⟩
    · intro take tally told accounts stays
      obtain ⟨kept, _, rfl, found', recording, running, _⟩ := accounts told stays
      cases found.symm.trans found'
      have isOpen : told.isOpen = true := recording.symm.trans records
      obtain ⟨q, queued, whole⟩ := running isOpen
      -- Tidying leaves the queue of a session that records, so the frame is made of all of it.
      have given : l.tidy.journal.queue id = q :=
        Journal.queue_of_queue? ((queue?_tidy found records).trans queued)
      refine ⟨kept.add ⟨now, l.content id executions devices, _⟩, if_pos rfl, recording, ?_, ?_⟩
      · intro _
        refine ⟨.empty, (journal id).trans (if_pos rfl), ?_⟩
        rw [Queue.append_empty, Take.written_add, content, given]
        exact whole
      · exact fun closed => Bool.noConfusion (isOpen.symm.trans closed)

theorem Sound.travel (sound : Sound l log) (runs : Runs l log) (operation : TimeTravel.Operation) :
    Sound (l.perform now (.travel operation)).1
      (log ++ [⟨.travel operation, now, (l.perform now (.travel operation)).2⟩]) := by
  have becomes := TimeTravel.perform_becomes (TimeTravel.runs_sound runs.travels) operation now
  refine sound.next ?_ ?_
  · intro id q queued
    obtain ⟨s, found⟩ := sound.known queued
    have becomes := becomes id
    rw [found] at becomes
    exact becomes.known
  · intro id take tally accounts told same
    change (if operation.touches id then none else tally) = some told at same
    split_ifs at same with touches
    obtain ⟨kept, s, taken, found, recording, running, ended⟩ := accounts told same
    have becomes := becomes id
    rw [found] at becomes
    obtain ⟨⟨s', found', recording'⟩, quiet⟩ := becomes.untouched (Bool.not_eq_true _ ▸ touches)
    exact ⟨kept, s', (quiet take).trans taken, found', recording'.trans recording, running, ended⟩

theorem Runs.sound (runs : Runs l log) : Sound l log := by
  induction runs with
  | start =>
    refine ⟨?_, ?_⟩
    · intro id q queued
      cases queued
    · intro id told contrary
      cases contrary
  | @next l log before step now fresh ih =>
    cases step with
    | record events => exact ih.post rfl (fun _ _ => rfl) rfl fun _ => Journal.queue?_record _ _ _
    | deliver communications =>
      exact ih.post rfl (fun _ _ => rfl) rfl fun _ => Journal.queue?_deliver _ _ _
    | start id options => exact ih.start fresh
    | stop id => exact ih.stop before
    | append id executions devices => exact ih.append before executions devices
    | travel operation => exact ih.travel before operation

-- A session that records captures all that is in its queue.
theorem append_of_records {s : Session} (found : l.travel.session? id = some s)
    (records : s.isRecording = true) (executions : List ExecutionSnapshot)
    (devices : List DeviceSummary) (now : Instant) :
    ∃ report, (l.append id executions devices now).1 = .ok report ∧
      (l.append id executions devices now).2.journal.queue id = .empty := by
  rw [append_eq, TimeTravel.capture_of_records found records]
  exact ⟨_, rfl, Journal.queue_of_queue? ((Journal.queue?_clear _ id id).trans (if_pos rfl))⟩

-- A capture that fails takes nothing from any session that records.
theorem append_refused {executions : List ExecutionSnapshot} {devices : List DeviceSummary}
    {cause : TimeTravelError} (refused : (l.append id executions devices now).1 = .error cause) :
    (l.append id executions devices now).2.travel = l.travel ∧
      ∀ other s, l.travel.session? other = some s → s.isRecording = true →
        (l.append id executions devices now).2.journal.queue other = l.journal.queue other := by
  rw [append_eq] at refused ⊢
  cases captured : l.travel.capture id (l.content id executions devices) now with
  | ok both =>
    rw [captured] at refused
    cases refused
  | error cause =>
    refine ⟨rfl, ?_⟩
    intro other s found records
    exact congrArg (Option.getD · .empty) (queue?_tidy found records)

end Logbook

end Chronomata
