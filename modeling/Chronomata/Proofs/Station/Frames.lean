import Chronomata.Proofs.Station.Published

-- The frames of a session: nothing is added to them but by a capture, and nothing that a station is asked for
-- in one go captures.
namespace Chronomata

-- The operations that put frames into a session: captures, and importing a session in its place.
def TimeTravel.Operation.fills (id : SessionId) : TimeTravel.Operation → Bool
  | .capture other _ => other == id
  | .importArchive archive => archive.session.id == id
  | _ => false

theorem TimeTravel.Operation.not_fills {id : SessionId} {operation : TimeTravel.Operation}
    (own : operation.touches id = false) : operation.fills id = false := by
  cases operation <;> first | rfl | exact own

-- Nothing was added to the frames of a session.
def Unfilled (id : SessionId) (t after : TimeTravel) : Prop :=
  ∀ session, after.session? id = some session →
    session.frames = [] ∨ ∃ before, t.session? id = some before ∧ session.frames = before.frames

theorem Unfilled.of_session? {id : SessionId} {t after : TimeTravel}
    (same : after.session? id = t.session? id) : Unfilled id t after :=
  fun session found => .inr ⟨session, same ▸ found, rfl⟩

theorem TimeTravel.Becomes.unfilled {id : SessionId} {entry : TimeTravel.Entry} {before : Option Session}
    {session : Session} (becomes : TimeTravel.Becomes id entry before (some session))
    (spared : entry.operation.fills id = false) :
    session.frames = [] ∨ ∃ s, before = some s ∧ session.frames = s.frames := by
  cases becomes with
  | stays _ _ => exact .inr ⟨session, rfl, rfl⟩
  | started options _ => exact .inl rfl
  | stopped records => exact .inr ⟨_, rfl, rfl⟩
  | captured records content => simp [TimeTravel.Operation.fills] at spared
  | marked s number name => exact .inr ⟨s, rfl, rfl⟩
  | imported _ same => simp [TimeTravel.Operation.fills, same] at spared

theorem TimeTravel.perform_unfilled {t : TimeTravel} {takes : SessionId → Option Take}
    (sound : TimeTravel.Sound t takes) (operation : TimeTravel.Operation) (now : Instant) {id : SessionId}
    (spared : operation.fills id = false) : Unfilled id t (t.perform now operation).1 := by
  intro session found
  have becomes := TimeTravel.perform_becomes sound operation now id
  rw [found] at becomes
  exact becomes.unfilled spared

-- A session keeps its newest frames.
theorem Session.append_frames (s : Session) (content : Capture) (now : Instant) :
    (s.append content now).1.frames <:+ s.frames ++ [.ofCapture s.nextFrame now content] := by
  unfold Session.append Session.frames Ring.push
  dsimp only
  split
  · rename_i oldest rest whole
    rw [whole]
    split
    · exact List.suffix_cons oldest rest
    · exact List.suffix_refl _
  · rename_i empty
    exact absurd empty (by simp)

namespace Station

variable {s after : Station} {now : Instant} {id : SessionId}

theorem spawn_travel {device : String} {a : Automaton} {key : InstanceKey}
    (spawned : s.spawn device a now = .ok (after, key)) : after.travel = s.travel := by
  unfold spawn at spawned
  dsimp only at spawned
  split at spawned
  · cases spawned
  · cases spawned
    rfl

theorem stopPlayback_session? (s : Station) (id : SessionId) :
    s.stopPlayback.travel.session? id = s.travel.session? id := by
  unfold stopPlayback
  split
  · rfl
  · exact TimeTravel.session?_movePlayhead _ _ _ id

theorem play_session? (s : Station) (other : SessionId) (speed : Float) (id : SessionId) :
    (s.play other speed).2.travel.session? id = s.travel.session? id := by
  have played := TimeTravel.session?_movePlayhead s.stopPlayback.travel other (fun p s => p.play s speed) id
  change (s.stopPlayback.travel.play other speed).2.session? id = _ at played
  rw [← stopPlayback_session? s id, ← played]
  unfold play
  dsimp only
  split
  · rename_i refused
    rw [refused]
    rfl
  · rename_i accepted
    rw [accepted]
    split <;> rfl

theorem startRecording_travel {options : RecordingOptions}
    (started : s.startRecording id options now = .ok after) :
    after.travel = (s.travel.perform now (.start id options)).1 := by
  have begun := startRecording_logbook started
  rw [Logbook.startRecording_eq] at begun
  cases opened : s.logbook.travel.startRecording id options now with
  | error cause => rw [opened] at begun; cases begun
  | ok sessions =>
    rw [opened] at begun
    simp only [TimeTravel.perform, travel, opened]
    exact congrArg Logbook.travel (Except.ok.inj begun).symm

theorem stopRecording_travel (stopped : s.stopRecording id now = .ok after) :
    after.travel = (s.travel.perform now (.stop id)).1 := by
  unfold stopRecording at stopped
  rw [Logbook.stopRecording_eq] at stopped
  cases ended : s.logbook.travel.stopRecording id now with
  | error cause => rw [ended] at stopped; cases stopped
  | ok sessions =>
    rw [ended] at stopped
    cases stopped
    simp only [TimeTravel.perform, travel, ended]
    rfl

theorem retire_travel (now : Instant) (s : Station) (key : InstanceKey) :
    (retire now s key).travel = s.travel := by
  show (s.orStay (s.command key (·.stop now))).travel = s.travel
  cases done : s.command key (·.stop now) with
  | error cause => rfl
  | ok after => exact congrArg Logbook.travel (command_logbook done)

theorem foldl_retire_travel (now : Instant) (keys : List InstanceKey) (s : Station) :
    (keys.foldl (retire now) s).travel = s.travel := by
  induction keys generalizing s with
  | nil => rfl
  | cons key rest ih => exact (ih (retire now s key)).trans (retire_travel now s key)

theorem shutdown_session? (s : Station) (now : Instant) (id : SessionId) :
    (s.shutdown now).travel.session? id = s.travel.session? id := by
  unfold shutdown
  rw [foldl_retire_travel]
  exact stopPlayback_session? s id

theorem orStay_unfilled {ε : Type} {outcome : Except ε Station}
    (unfilled : ∀ after, outcome = .ok after → Unfilled id s.travel after.travel) :
    Unfilled id s.travel (s.orStay outcome).travel := by
  cases outcome with
  | error cause => exact .of_session? rfl
  | ok after => exact unfilled after rfl

theorem perform_unfilled {lines : List Logbook.Entry} (logged : Logbook.Runs s.logbook lines)
    (now : Instant) {operation : Operation} (prompt : operation.isPrompt = true)
    (own : operation.touches id = false) : Unfilled id s.travel (s.perform now operation).travel := by
  have sound := TimeTravel.runs_sound logged.travels
  have still : ∀ {after : Station}, after.logbook = s.logbook → Unfilled id s.travel after.travel :=
    fun same => .of_session? (congrArg (·.travel.session? id) same)
  cases operation with
  | gateway change => exact .of_session? rfl
  | spawn device a =>
    simp only [perform]
    cases spawned : s.spawn device a now with
    | error cause => exact .of_session? rfl
    | ok both => exact .of_session? (congrArg (·.session? id) (spawn_travel spawned))
  | pause key => exact orStay_unfilled fun _ done => still (command_logbook done)
  | resume key => exact orStay_unfilled fun _ done => still (command_logbook done)
  | startRecording other options =>
    exact orStay_unfilled fun _ done =>
      startRecording_travel done ▸ TimeTravel.perform_unfilled sound (.start other options) now rfl
  | stopRecording other =>
    exact orStay_unfilled fun _ done =>
      stopRecording_travel done ▸ TimeTravel.perform_unfilled sound (.stop other) now rfl
  | capture other => cases prompt
  | play other speed => exact .of_session? (play_session? s other speed id)
  | stopPlayback => exact .of_session? (stopPlayback_session? s id)
  | travel operation => exact TimeTravel.perform_unfilled sound operation now (TimeTravel.Operation.not_fills own)
  | advance nanoseconds => cases prompt
  | shutdown => exact .of_session? (shutdown_session? s now id)

theorem drive_travel (s : Station) (key : InstanceKey) (now : Instant) :
    (s.drive key now).travel = s.travel := by
  have reachable : ∀ i, (s.driveReachable i now).travel = s.travel := by
    intro i
    unfold driveReachable
    dsimp only
    split
    · rfl
    · exact (congrArg Logbook.travel (send_logbook _ _ _ _)).trans rfl
  unfold drive
  split
  · split
    · exact reachable _
    · rfl
  · rfl

theorem summarize_travel (now : Instant) (executions : List ExecutionSnapshot) (devices : List String)
    (s : Station) : (summarize now executions devices s).1.travel = s.travel := by
  induction devices generalizing s with
  | nil => rfl
  | cons device rest ih => exact ih (observe now s device).1

theorem collect_travel (s : Station) : s.collect.travel = s.travel := by
  unfold collect
  split <;> rfl

end Station

end Chronomata
