import Chronomata.Fleet
import Chronomata.Proofs.Station.Accounts
import Mathlib.Data.List.Induction

-- A session captures everything that happens while it is open, once and in order, whatever other sessions do.
-- A capture that fails costs no session anything.
namespace Chronomata.Logbook

variable {l : Logbook} {log : List Entry} {now : Instant} {id : SessionId}

-- What a step puts into the queues.
def Step.posted : Step → Queue
  | .record events => ⟨events, []⟩
  | .deliver communications => ⟨[], communications⟩
  | _ => .empty

def posted (log : List Entry) : Queue :=
  ⟨log.flatMap (·.step.posted.events), log.flatMap (·.step.posted.communications)⟩

theorem posted_cons (entry : Entry) (log : List Entry) :
    posted (entry :: log) = entry.step.posted ++ posted log := rfl

def Step.touches (id : SessionId) : Step → Bool
  | .travel operation => operation.touches id
  | _ => false

-- The line of a stop that succeeded.
def Entry.stops (id : SessionId) : Entry → Bool
  | ⟨.stop other, _, .stopped _ (.ok _)⟩ => other == id
  | _ => false

-- What a line says of a session that is there.
def Tally.watch (id : SessionId) (tally : Tally) : Entry → Tally
  | ⟨.stop other, _, .stopped dropped (.ok _)⟩ => if other = id then tally.close dropped else tally
  | entry => tally.add entry.step.posted

theorem Tally.watch_of_open {tally : Tally} {entry : Entry} (isOpen : tally.isOpen = true)
    (unstopped : entry.stops id = false) :
    tally.watch id entry = { tally with seen := tally.seen ++ entry.step.posted } := by
  unfold Tally.watch
  split
  · rename_i other _ dropped _
    have different : other ≠ id := by simpa [Entry.stops] using unstopped
    rw [if_neg different]
    exact congrArg (fun seen => { tally with seen }) (Queue.append_empty _).symm
  · rw [Tally.add, if_pos isOpen]

theorem Tally.watch_of_closed {tally : Tally} (closed : tally.isOpen = false) (entry : Entry) :
    tally.watch id entry = tally := by
  have shut : ¬ tally.isOpen = true := by rw [closed]; decide
  unfold Tally.watch
  split
  · rw [Tally.close, if_neg shut, ite_self]
  · rw [Tally.add, if_neg shut]

theorem Tally.watch_of_stops (tally : Tally) {entry : Entry} (stops : entry.stops id = true) :
    (tally.watch id entry).isOpen = false := by
  unfold Entry.stops at stops
  split at stops
  · rename_i other _ dropped _
    show (if other = id then tally.close dropped else tally).isOpen = false
    rw [if_pos (eq_of_beq stops), Tally.close]
    split
    · rfl
    · rename_i shut
      exact Bool.not_eq_true _ ▸ shut
  · cases stops

theorem foldl_watch_of_closed {tally : Tally} (closed : tally.isOpen = false) (since : List Entry) :
    since.foldl (Tally.watch id) tally = tally := by
  induction since with
  | nil => rfl
  | cons entry rest ih =>
    rw [List.foldl_cons, Tally.watch_of_closed closed, ih]

theorem foldl_watch_of_open {tally : Tally} {since : List Entry} (isOpen : tally.isOpen = true)
    (unstopped : ∀ entry ∈ since, entry.stops id = false) :
    since.foldl (Tally.watch id) tally = { tally with seen := tally.seen ++ posted since } := by
  induction since generalizing tally with
  | nil => exact congrArg (fun seen => { tally with seen }) (Queue.append_empty _).symm
  | cons entry rest ih =>
    obtain ⟨first, others⟩ := List.forall_mem_cons.mp unstopped
    have later := ih (show ({ tally with seen := tally.seen ++ entry.step.posted } : Tally).isOpen = true
      from isOpen) others
    rw [List.foldl_cons, Tally.watch_of_open isOpen first, later, posted_cons, Queue.append_assoc]

-- A session that is still open was not stopped.
theorem unstopped_of_open {tally : Tally} {since : List Entry}
    (isOpen : (since.foldl (Tally.watch id) tally).isOpen = true) :
    ∀ entry ∈ since, entry.stops id = false := by
  induction since generalizing tally with
  | nil => exact List.forall_mem_nil _
  | cons entry rest ih =>
    refine List.forall_mem_cons.mpr ⟨?_, ih isOpen⟩
    cases stops : entry.stops id with
    | false => rfl
    | true =>
      have closed := tally.watch_of_stops stops
      rw [List.foldl_cons, foldl_watch_of_closed closed, closed] at isOpen
      cases isOpen

theorem follow_own {tally : Tally} {entry : Entry} (own : entry.step.touches id = false)
    (started : ∀ options, entry.step ≠ .start id options) :
    follow id (some tally) entry = some (tally.watch id entry) := by
  have idle : tally.add .empty = tally := by
    unfold Tally.add
    split <;> simp only [Queue.append_empty]
  obtain ⟨step, now, answer⟩ := entry
  cases step with
  | record events => rfl
  | deliver communications => rfl
  | append other executions devices => exact congrArg some idle.symm
  | travel operation =>
    show (if operation.touches id then none else some tally) = some (tally.add .empty)
    rw [if_neg (by rw [show operation.touches id = false from own]; decide), idle]
  | start other options =>
    have different : other ≠ id := fun same => started options (same ▸ rfl)
    cases answer with
    | started outcome =>
      cases outcome with
      | ok told => exact (if_neg different).trans (congrArg some idle.symm)
      | error cause => exact congrArg some idle.symm
    | noted => exact congrArg some idle.symm
    | stopped dropped outcome => exact congrArg some idle.symm
    | appended content outcome => exact congrArg some idle.symm
    | travelled told => exact congrArg some idle.symm
  | stop other =>
    cases answer with
    | stopped dropped outcome =>
      cases outcome with
      | ok told =>
        show (if other = id then some (tally.close dropped) else some tally) =
          some (if other = id then tally.close dropped else tally)
        split <;> rfl
      | error cause => exact congrArg some idle.symm
    | noted => exact congrArg some idle.symm
    | started outcome => exact congrArg some idle.symm
    | appended content outcome => exact congrArg some idle.symm
    | travelled told => exact congrArg some idle.symm

theorem Runs.last {entry : Entry} (runs : Runs l (log ++ [entry])) :
    ∃ before, Runs before log ∧ entry.step.Fresh before.travel ∧
      l = (before.perform entry.now entry.step).1 ∧
      entry.answer = (before.perform entry.now entry.step).2 := by
  generalize whole : log ++ [entry] = all at runs
  cases runs with
  | start => exact absurd whole (by simp)
  | next runs step now fresh =>
    obtain ⟨rfl, last⟩ := List.append_inj' whole rfl
    cases last
    exact ⟨_, runs, fresh, rfl, rfl⟩

theorem Runs.answered {entry : Entry} {after : List Entry} (runs : Runs l (log ++ entry :: after)) :
    ∃ before, Runs before log ∧ entry.answer = (before.perform entry.now entry.step).2 := by
  induction after using List.reverseRecOn generalizing l with
  | nil =>
    obtain ⟨before, runs, _, _, answered⟩ := runs.last
    exact ⟨before, runs, answered⟩
  | append_singleton after last ih =>
    rw [← List.cons_append, ← List.append_assoc] at runs
    obtain ⟨_, runs, _⟩ := runs.last
    exact ih runs

-- The log of a session that was opened, and that nothing was done to directly, tells its tally.
theorem Runs.watched {options : RecordingOptions} {before since : List Entry}
    (runs : Runs l (before ++ ⟨.start id options, now, .started (.ok ())⟩ :: since))
    (own : ∀ entry ∈ since, entry.step.touches id = false) :
    tally? id (before ++ ⟨.start id options, now, .started (.ok ())⟩ :: since) =
      some (since.foldl (Tally.watch id) .opened) := by
  induction since using List.reverseRecOn generalizing l with
  | nil =>
    rw [tally?_append]
    exact if_pos rfl
  | append_singleton since entry ih =>
    rw [← List.cons_append, ← List.append_assoc] at runs ⊢
    obtain ⟨earlier, runs, fresh, _⟩ := runs.last
    have told := ih runs fun entry member => own entry (List.mem_append_left _ member)
    rw [tally?_append, told, follow_own (own entry (by simp)), List.foldl_append]
    · rfl
    · intro options started
      obtain ⟨_, s, _, found, _⟩ := runs.sound.accounts id _ told
      rw [started] at fresh
      cases found.symm.trans fresh

theorem stop_eq_ok {dropped : Queue}
    (told : (l.perform now (.stop id)).2 = .stopped dropped (.ok ())) :
    ∃ s, l.travel.session? id = some s ∧ s.isRecording = true ∧
      (l.perform now (.stop id)).1.travel =
        ⟨l.travel.recorder.store (s.finish now), l.travel.playheads⟩ := by
  simp only [perform, stopRecording_eq] at told ⊢
  cases stopped : l.travel.stopRecording id now with
  | error cause =>
    rw [stopped] at told
    cases told
  | ok travel =>
    obtain ⟨s, found, records, rfl⟩ := TimeTravel.stopRecording_eq_ok stopped
    exact ⟨s, found, records, rfl⟩

theorem Entry.of_stops {entry : Entry} (stops : entry.stops id = true) :
    entry.step = .stop id ∧ ∃ dropped, entry.answer = .stopped dropped (.ok ()) := by
  unfold Entry.stops at stops
  split at stops
  · exact ⟨congrArg Step.stop (eq_of_beq stops), _, rfl⟩
  · cases stops

theorem Runs.rests (runs : Runs l log) (stopped : ∃ entry ∈ log, entry.stops id = true) :
    ∃ s, l.travel.session? id = some s ∧ s.isRecording = false := by
  induction runs with
  | start =>
    obtain ⟨_, member, _⟩ := stopped
    cases member
  | @next l log before step now fresh ih =>
    obtain ⟨entry, member, stops⟩ := stopped
    rcases List.mem_append.mp member with earlier | last
    · obtain ⟨s, found, rests⟩ := ih ⟨entry, earlier, stops⟩
      rcases perform_travel l now step with ⟨_, same⟩ | ⟨operation, _, same, starts⟩
      · rw [same]
        exact ⟨s, found, rests⟩
      · have becomes := TimeTravel.perform_becomes (TimeTravel.runs_sound before.travels) operation
          now id
        rw [found, ← same] at becomes
        refine becomes.rests rests ?_
        intro options started
        cases found.symm.trans (starts id options started fresh)
    · obtain rfl := List.mem_singleton.mp last
      obtain ⟨same, dropped, told⟩ := Entry.of_stops stops
      dsimp only at same told
      subst same
      obtain ⟨s, found, _, after⟩ := stop_eq_ok told
      have filed : (s.finish now).id = id := ((TimeTravel.runs_sound before.travels).filed found).1
      rw [after]
      exact ⟨s.finish now, (TimeTravel.session?_store _ _ _ _).trans (if_pos filed.symm), rfl⟩

-- A session that is stopped was open until then, and what it saw is told by the log.
theorem Runs.stopped {options : RecordingOptions} {later : Instant} {dropped : Queue}
    {before during after : List Entry}
    (runs : Runs l (before ++ ⟨.start id options, now, .started (.ok ())⟩ ::
      (during ++ ⟨.stop id, later, .stopped dropped (.ok ())⟩ :: after)))
    (own : ∀ entry ∈ during, entry.step.touches id = false) :
    (during ++ ⟨.stop id, later, .stopped dropped (.ok ())⟩ :: after).foldl (Tally.watch id) .opened =
      ⟨false, posted during, dropped⟩ := by
  rw [← List.cons_append, ← List.append_assoc] at runs
  obtain ⟨earlier, runs, answered⟩ := runs.answered
  obtain ⟨s, found, records, _⟩ := stop_eq_ok answered.symm
  obtain ⟨_, s', _, found', recording, _⟩ := runs.sound.accounts id _ (runs.watched own)
  cases found.symm.trans found'
  -- The stop succeeded, so the session still recorded: the first stop is the only one.
  have unstopped := unstopped_of_open (recording.symm.trans records)
  have seen : during.foldl (Tally.watch id) .opened = { Tally.opened with seen := posted during } :=
    foldl_watch_of_open rfl unstopped
  rw [List.foldl_append, List.foldl_cons, seen]
  have closed : Tally.watch id { Tally.opened with seen := posted during }
      ⟨.stop id, later, .stopped dropped (.ok ())⟩ = ⟨false, posted during, dropped⟩ := if_pos rfl
  rw [closed, foldl_watch_of_closed rfl]

-- In whatever order tasks record, deliver, open, stop and capture: the frames of a session, the dropped
-- ones included, and its queue after them hold exactly what was recorded and delivered since it was
-- opened, and its next capture takes all of the queue. When it is stopped, what its queue held is all
-- that was not captured, and a capture that was under way comes too late. No session that records
-- loses anything to a capture that fails.
theorem delivered_exact (runs : Runs l log) :
    (∀ id options now before since,
      log = before ++ ⟨.start id options, now, .started (.ok ())⟩ :: since →
      (∀ entry ∈ since, entry.step.touches id = false) →
      ∃ take s, TimeTravel.take? id (lines log) = some take ∧
        l.travel.session? id = some s ∧ s.frames = take.kept ∧
        (s.isRecording = true ↔ ∀ entry ∈ since, entry.stops id = false) ∧
        (s.isRecording = true →
          take.recorded.flatMap (·.events) ++ (l.journal.queue id).events = (posted since).events ∧
          take.recorded.flatMap (·.communications) ++ (l.journal.queue id).communications =
            (posted since).communications ∧
          ∀ executions devices now, ∃ report,
            (l.append id executions devices now).1 = .ok report ∧
              (l.append id executions devices now).2.journal.queue id = .empty) ∧
        ∀ during later dropped after,
          since = during ++ ⟨.stop id, later, .stopped dropped (.ok ())⟩ :: after →
          take.recorded.flatMap (·.events) ++ dropped.events = (posted during).events ∧
          take.recorded.flatMap (·.communications) ++ dropped.communications =
            (posted during).communications) ∧
    (∀ id executions devices now cause, (l.append id executions devices now).1 = .error cause →
      (l.append id executions devices now).2.travel = l.travel ∧
        ∀ other s, l.travel.session? other = some s → s.isRecording = true →
          (l.append id executions devices now).2.journal.queue other = l.journal.queue other) ∧
    ∀ id, (∃ entry ∈ log, entry.stops id = true) → ∀ executions devices now,
      (l.append id executions devices now).1 = .error (.recorder (.notRecording id)) ∧
        (l.append id executions devices now).2.travel = l.travel := by
  refine ⟨?_, ?_, ?_⟩
  · rintro id options now before since rfl own
    have watched := runs.watched own
    obtain ⟨take, s, taken, found, recording, running, ended⟩ := runs.sound.accounts id _ watched
    obtain ⟨_, found', keeps⟩ := (TimeTravel.runs_sound runs.travels).kept taken
    cases found.symm.trans found'
    refine ⟨take, s, taken, found, keeps.frames, ?_, ?_, ?_⟩
    · rw [recording]
      refine ⟨unstopped_of_open, ?_⟩
      intro unstopped
      rw [foldl_watch_of_open rfl unstopped]
      rfl
    · intro records
      have isOpen := recording.symm.trans records
      obtain ⟨q, queued, whole⟩ := running isOpen
      rw [foldl_watch_of_open rfl (unstopped_of_open isOpen)] at whole
      rw [Journal.queue_of_queue? queued]
      exact ⟨congrArg Queue.events whole, congrArg Queue.communications whole,
        append_of_records found records⟩
    · rintro during later dropped after rfl
      have closed := runs.stopped fun entry member => own entry (List.mem_append_left _ member)
      rw [closed] at ended
      have whole := ended rfl
      exact ⟨congrArg Queue.events whole, congrArg Queue.communications whole⟩
  · intro id executions devices now cause
    exact append_refused
  · intro id stopped executions devices now
    obtain ⟨s, found, rests⟩ := runs.rests stopped
    have refused : (l.append id executions devices now).1 = .error (.recorder (.notRecording id)) := by
      rw [append_eq, TimeTravel.capture_of_rests found rests]
    exact ⟨refused, (append_refused refused).1⟩

def extend (now : Instant) (before : Logbook × List Entry) (step : Step) : Logbook × List Entry :=
  let (after, answer) := before.1.perform now step
  (after, before.2 ++ [⟨step, now, answer⟩])

-- Every step of a list is fresh when its turn comes.
def AllFresh (now : Instant) : Logbook → List Step → Prop
  | _, [] => True
  | l, step :: rest => step.Fresh l.travel ∧ AllFresh now (l.perform now step).1 rest

theorem foldl_runs (now : Instant) (steps : List Step) {l : Logbook} {log : List Entry}
    (runs : Runs l log) (fresh : AllFresh now l steps) :
    Runs (steps.foldl (extend now) (l, log)).1 (steps.foldl (extend now) (l, log)).2 := by
  induction steps generalizing l log with
  | nil => exact runs
  | cons step rest ih => exact ih (.next runs step now fresh.1) fresh.2

def lost (device : String) : Event := .connectionChanged device .disconnected .epoch

-- Two sessions, the second of which is stopped while a capture of it is under way.
def shared : Logbook × List Entry :=
  [.start ⟨7⟩ .default, .record [lost "a"], .start ⟨8⟩ .default, .record [lost "b"],
    .append ⟨8⟩ [] [], .append ⟨7⟩ [] [], .record [lost "c"], .stop ⟨8⟩, .append ⟨8⟩ [] [],
    .record [lost "d"]].foldl (extend .epoch) (.empty, [])

theorem delivered_exact_shared :
    (∃ take, TimeTravel.take? ⟨7⟩ (lines shared.2) = some take ∧
      take.recorded.flatMap (·.events) ++ (shared.1.journal.queue ⟨7⟩).events =
        [lost "a", lost "b", lost "c", lost "d"]) ∧
      (∃ take, TimeTravel.take? ⟨8⟩ (lines shared.2) = some take ∧
        take.recorded.flatMap (·.events) ++ [lost "c"] = [lost "b", lost "c"]) ∧
      (shared.1.append ⟨8⟩ [] [] .epoch).1 = .error (.recorder (.notRecording ⟨8⟩)) := by
  have runs : Runs shared.1 shared.2 :=
    foldl_runs .epoch _ .start ⟨rfl, trivial, rfl, trivial, trivial, trivial, trivial, trivial,
      trivial, trivial, trivial⟩
  obtain ⟨accounts, _, late⟩ := delivered_exact runs
  have own : ∀ id, ∀ entry ∈ shared.2.drop 1, entry.step.touches id = false := by
    intro id entry member
    have touches : (shared.2.drop 1).map (·.step.touches id) = List.replicate 9 false := rfl
    exact List.eq_of_mem_replicate (touches ▸ List.mem_map_of_mem member)
  have unstopped : ∀ entry ∈ shared.2.drop 1, entry.stops ⟨7⟩ = false := by
    have stops : (shared.2.drop 1).map (·.stops ⟨7⟩) = List.replicate 9 false := rfl
    intro entry member
    exact List.eq_of_mem_replicate (stops ▸ List.mem_map_of_mem member)
  have stopped : ∃ entry ∈ shared.2, entry.stops ⟨8⟩ = true :=
    ⟨⟨.stop ⟨8⟩, .epoch, .stopped ⟨[lost "c"], []⟩ (.ok ())⟩,
      List.mem_of_getElem? (show shared.2[7]? = _ from rfl), rfl⟩
  obtain ⟨take, s, taken, _, _, recording, whole, _⟩ :=
    accounts ⟨7⟩ .default .epoch [] (shared.2.drop 1) rfl (own ⟨7⟩)
  obtain ⟨take', _, taken', _, _, _, _, whole'⟩ :=
    accounts ⟨8⟩ .default .epoch (shared.2.take 2) (shared.2.drop 3) rfl fun entry member =>
      own ⟨8⟩ entry (List.mem_of_mem_drop (show entry ∈ (shared.2.drop 1).drop 2 from member))
  exact ⟨⟨take, taken, (whole (recording.mpr unstopped)).1⟩,
    ⟨take', taken', (whole' ((shared.2.drop 3).take 4) _ _ (shared.2.drop 8) rfl).1⟩,
    (late ⟨8⟩ stopped [] [] .epoch).1⟩

end Chronomata.Logbook
