import Chronomata.Proofs.Station.Schedule

-- Runs of a station: what is asked of it, one operation after the other, and what its logbook comes to record
-- by that since a session was opened.
namespace Chronomata.Station

-- What can be asked of a station, what can become of the gateway behind it, and what can be done to its
-- sessions directly.
inductive Operation where
  | gateway (change : Gateway → Gateway)
  | spawn (device : String) (a : Automaton)
  | pause (key : InstanceKey)
  | resume (key : InstanceKey)
  | startRecording (id : SessionId) (options : RecordingOptions)
  | stopRecording (id : SessionId)
  | capture (id : SessionId)
  | play (id : SessionId) (speed : Float)
  | stopPlayback
  | travel (operation : TimeTravel.Operation)
  | advance (nanoseconds : Nat)
  | shutdown

-- What is refused leaves the station as it was.
def orStay {ε : Type} (s : Station) (outcome : Except ε Station) : Station := outcome.toOption.getD s

def perform (s : Station) (now : Instant) : Operation → Station
  | .gateway change => { s with gateway := change s.gateway }
  | .spawn device a => s.orStay ((s.spawn device a now).map (·.1))
  | .pause key => s.orStay (s.pauseInstance key now)
  | .resume key => s.orStay (s.resumeInstance key now)
  | .startRecording id options => s.orStay (s.startRecording id options now)
  | .stopRecording id => s.orStay (s.stopRecording id now)
  | .capture id => (s.capture id now).2
  | .play id speed => (s.play id speed).2
  | .stopPlayback => s.stopPlayback
  | .travel operation => s.withTravel (s.travel.perform now operation).1
  | .advance nanoseconds => s.advance nanoseconds now
  | .shutdown => s.shutdown now

-- One operation of a run, and the station that it is asked of.
structure Passage where
  before : Station
  operation : Operation
  now : Instant

def Passage.after (p : Passage) : Station := p.before.perform p.now p.operation

-- Ids of new sessions are drawn at random and name no session that is already there.
def Operation.Fresh (t : TimeTravel) : Operation → Prop
  | .startRecording id _ => t.session? id = none
  | .travel operation => (Logbook.Step.travel operation).Fresh t
  | _ => True

-- Nothing is asked of a station that was shut down.
inductive Runs : Station → List Passage → Prop where
  | new (host : Host) (gateway : Gateway) (tickInterval : Span) :
      Runs (.new host gateway tickInterval) []
  | next {s : Station} {log : List Passage} (before : Runs s log) (operation : Operation)
      (now : Instant) (fresh : operation.Fresh s.travel)
      (works : ∀ p ∈ log, p.operation ≠ .shutdown) :
      Runs (s.perform now operation) (log ++ [⟨s, operation, now⟩])

variable {s after : Station} {now : Instant} {key : InstanceKey}

-- The news of an operation: a start, and at the end a stop of every instance.
def Passage.told (p : Passage) : List Event :=
  match p.operation with
  | .spawn device a => match p.before.spawn device a p.now with
    | .ok (_, key) => [.lifecycle key "started" p.now]
    | .error _ => []
  | .shutdown => p.before.instances.keys.map (.lifecycle · "stopped" p.now)
  | _ => []

-- Operations on the sessions themselves that open, end or fill a session, or put another one in its
-- place.
def Operation.touches (id : SessionId) : Operation → Bool
  | .travel operation => operation.touches id
  | _ => false

theorem orStay_tells {ε : Type} {outcome : Except ε Station}
    (tells : ∀ after, outcome = .ok after → s.logbook.Tells [] after.logbook) :
    s.logbook.Tells [] (s.orStay outcome).logbook := by
  cases outcome with
  | error cause => exact .rest
  | ok after => exact tells after rfl

-- An operation is steps of the logbook, which record its news and touch no session that it does not touch.
theorem Passage.runs {p : Passage} {lines : List Logbook.Entry}
    (runs : Logbook.Runs p.before.logbook lines) (fresh : p.operation.Fresh p.before.travel) :
    ∃ more, Logbook.Runs p.after.logbook (lines ++ more) ∧
      (∀ id, p.operation.touches id = false → ∀ entry ∈ more, entry.step.touches id = false) ∧
      (Logbook.posted more).events.filter Event.isNews = p.told := by
  have given : ∀ {operation : Operation} {news after}, p.before.logbook.Tells news after → ∃ more,
      Logbook.Runs after (lines ++ more) ∧
        (∀ id, operation.touches id = false → ∀ entry ∈ more, entry.step.touches id = false) ∧
        (Logbook.posted more).events.filter Event.isNews = news := by
    intro operation news after tells
    obtain ⟨more, runs, own, told⟩ := tells.runs runs
    exact ⟨more, runs, fun id _ entry member => own entry member id, told⟩
  obtain ⟨s, operation, now⟩ := p
  cases operation with
  | gateway change => exact given .rest
  | spawn device a =>
    simp only [after, perform, told]
    cases spawned : s.spawn device a now with
    | error cause => exact given .rest
    | ok both => exact given (spawn_tells spawned)
  | pause key => exact given (orStay_tells fun _ done => command_logbook done ▸ .rest)
  | resume key => exact given (orStay_tells fun _ done => command_logbook done ▸ .rest)
  | startRecording other options =>
    exact given (orStay_tells fun _ done => Logbook.tells_start fresh (startRecording_logbook done))
  | stopRecording other => exact given (orStay_tells fun _ done => stopRecording_tells done)
  | capture other => exact given (capture_tells s other now)
  | play other speed => exact given (play_tells s other speed)
  | stopPlayback => exact given (stopPlayback_tells s)
  | travel operation =>
    exact ⟨[_], runs.next (.travel operation) now fresh,
      fun id own => List.forall_mem_singleton.mpr own, rfl⟩
  | advance nanoseconds => exact given (advance_tells s nanoseconds now)
  | shutdown => exact given (shutdown_tells s now)

theorem Runs.last {log : List Passage} {p : Passage} (runs : Runs s (log ++ [p])) :
    Runs p.before log ∧ p.operation.Fresh p.before.travel ∧ s = p.after := by
  generalize whole : log ++ [p] = all at runs
  cases runs with
  | new => exact absurd whole (by simp)
  | next runs operation now fresh works =>
    obtain ⟨rfl, last⟩ := List.append_inj' whole rfl
    cases last
    exact ⟨runs, fresh, rfl⟩

theorem Runs.reached {log : List Passage} (runs : Runs s log) :
    ∃ lines, Logbook.Runs s.logbook lines := by
  induction runs with
  | new => exact ⟨[], .start⟩
  | @next s log before operation now fresh _ ih =>
    obtain ⟨lines, logged⟩ := ih
    obtain ⟨more, logged, _⟩ := Passage.runs (p := ⟨s, operation, now⟩) logged fresh
    exact ⟨_, logged⟩

-- A passage that opens a session.
def Passage.Opens (id : SessionId) (p : Passage) : Prop :=
  ∃ options after, p.operation = .startRecording id options ∧
    p.before.startRecording id options p.now = .ok after

-- Since a session was opened, its logbook runs on without touching it, and records the news of all that
-- was asked.
theorem Runs.since {before since : List Passage} {opening : Passage} {id : SessionId}
    (runs : Runs s (before ++ opening :: since)) (opens : opening.Opens id)
    (own : ∀ p ∈ since, p.operation.touches id = false) :
    ∃ earlier options more,
      Logbook.Runs s.logbook (earlier ++ ⟨.start id options, opening.now, .started (.ok ())⟩ :: more) ∧
        (∀ entry ∈ more, entry.step.touches id = false) ∧
        (Logbook.posted more).events.filter Event.isNews = since.flatMap Passage.told := by
  induction since using List.reverseRecOn generalizing s with
  | nil =>
    obtain ⟨earlier, fresh, rfl⟩ := runs.last
    obtain ⟨lines, logged⟩ := earlier.reached
    obtain ⟨options, after, asked, opened⟩ := opens
    rw [asked] at fresh
    have next := logged.next (.start id options) opening.now fresh
    have begun := Logbook.perform_start (startRecording_logbook opened)
    rw [begun] at next
    have same : opening.after = after := by
      simp only [Passage.after, perform, asked, opened]
      rfl
    exact ⟨lines, options, [], same ▸ next, List.forall_mem_nil _, rfl⟩
  | append_singleton since p ih =>
    rw [← List.cons_append, ← List.append_assoc] at runs
    obtain ⟨earlier, fresh, rfl⟩ := runs.last
    obtain ⟨lines, options, more, logged, untouched, told⟩ :=
      ih earlier fun p member => own p (List.mem_append_left _ member)
    obtain ⟨later, logged, untouched', told'⟩ := Passage.runs logged fresh
    refine ⟨lines, options, more ++ later, ?_, ?_, ?_⟩
    · rw [List.append_assoc, List.cons_append] at logged
      exact logged
    · exact List.forall_mem_append.mpr ⟨untouched, untouched' id (own p (by simp))⟩
    · rw [List.flatMap_append, ← told, List.flatMap_cons, List.flatMap_nil, List.append_nil, ← told']
      simp only [Logbook.posted, List.flatMap_append, List.filter_append]

end Chronomata.Station
