import Chronomata.Proofs.Instance.Runs
import Chronomata.Proofs.Station.Delivery
import Chronomata.Station.Basic

-- Whatever a station does of its own accord or is asked for, it does to its logbook by steps of a run, so what
-- holds after every run of a logbook holds in every station.
namespace Chronomata

-- Events that tell of a change of a run state, or of a message that was lost.
def Event.isNews (e : Event) : Bool := e.kind == .lifecycle || e.kind == .messageDropped

theorem Event.filter_isNews_eq_nil {events : List Event}
    (old : ∀ e ∈ events, e.kind ≠ .lifecycle ∧ e.kind ≠ .messageDropped) : events.filter isNews = [] := by
  refine List.filter_eq_nil_iff.mpr ?_
  intro e member
  simp [isNews, old e member]

namespace Logbook

-- A schedule of steps, each at a time of its own.
inductive Leads (l : Logbook) : Logbook → Prop where
  | rest : Leads l l
  | step {after : Logbook} (before : Leads l after) (step : Step) (now : Instant)
      (fresh : step.Fresh after.travel) : Leads l (after.perform now step).1

variable {l middle after : Logbook} {log : List Entry}

theorem Leads.trans (first : Leads l middle) (second : Leads middle after) : Leads l after := by
  induction second with
  | rest => exact first
  | step _ step now fresh ih => exact ih.step step now fresh

theorem Leads.runs (leads : Leads l after) (runs : Runs l log) :
    ∃ more, Runs after (log ++ more) := by
  induction leads with
  | rest => exact ⟨[], (List.append_nil log).symm ▸ runs⟩
  | step _ step now fresh ih =>
    obtain ⟨more, runs⟩ := ih
    exact ⟨more ++ [_], List.append_assoc log more _ ▸ runs.next step now fresh⟩

-- A schedule of steps none of which operates on a session directly, and the news that it records.
inductive Tells (l : Logbook) : List Event → Logbook → Prop where
  | rest : Tells l [] l
  | step {news : List Event} {after : Logbook} (before : Tells l news after) (step : Step)
      (now : Instant) (fresh : step.Fresh after.travel) (own : ∀ id, step.touches id = false) :
      Tells l (news ++ step.posted.events.filter Event.isNews) (after.perform now step).1

variable {news news' : List Event}

theorem Tells.trans (first : Tells l news middle) (second : Tells middle news' after) :
    Tells l (news ++ news') after := by
  induction second with
  | rest => exact (List.append_nil news).symm ▸ first
  | step _ step now fresh own ih => exact List.append_assoc news _ _ ▸ ih.step step now fresh own

theorem Tells.leads (tells : Tells l news after) : Leads l after := by
  induction tells with
  | rest => exact .rest
  | step _ step now fresh _ ih => exact ih.step step now fresh

theorem Tells.runs (tells : Tells l news after) (runs : Runs l log) :
    ∃ more, Runs after (log ++ more) ∧ (∀ entry ∈ more, ∀ id, entry.step.touches id = false) ∧
      (posted more).events.filter Event.isNews = news := by
  induction tells with
  | rest => exact ⟨[], (List.append_nil log).symm ▸ runs, List.forall_mem_nil _, rfl⟩
  | step _ step now fresh own ih =>
    obtain ⟨more, runs, untouched, told⟩ := ih
    refine ⟨more ++ [_], List.append_assoc log more _ ▸ runs.next step now fresh, ?_, ?_⟩
    · exact List.forall_mem_append.mpr ⟨untouched, List.forall_mem_singleton.mpr own⟩
    · rw [← told]
      simp only [posted, List.flatMap_append, List.filter_append, List.flatMap_cons, List.flatMap_nil,
        List.append_nil]

-- One step that records no news.
theorem tells_quiet (l : Logbook) (step : Step) (now : Instant) (fresh : step.Fresh l.travel)
    (own : ∀ id, step.touches id = false) (quiet : step.posted.events.filter Event.isNews = []) :
    Tells l [] (l.perform now step).1 :=
  quiet ▸ .step .rest step now fresh own

theorem tells_record (l : Logbook) (events : List Event) (now : Instant) :
    Tells l (events.filter Event.isNews) (l.record events) :=
  .step .rest (.record events) now trivial fun _ => rfl

theorem tells_deliver (l : Logbook) (communications : List Communication) (now : Instant) :
    Tells l [] (l.deliver communications) :=
  tells_quiet l (.deliver communications) now trivial (fun _ => rfl) rfl

theorem tells_append (l : Logbook) (id : SessionId) (executions : List ExecutionSnapshot)
    (devices : List DeviceSummary) (now : Instant) :
    Tells l [] (l.append id executions devices now).2 :=
  tells_quiet l (.append id executions devices) now trivial (fun _ => rfl) rfl

theorem perform_start {id : SessionId} {options : RecordingOptions} {now : Instant}
    (started : l.startRecording id options now = .ok after) :
    l.perform now (.start id options) = (after, .started (.ok ())) := by
  simp only [perform, started, settle]

theorem tells_start {id : SessionId} {options : RecordingOptions} {now : Instant}
    (fresh : l.travel.session? id = none) (started : l.startRecording id options now = .ok after) :
    Tells l [] after := by
  have told := tells_quiet l (.start id options) now fresh (fun _ => rfl) rfl
  rwa [perform_start started] at told

theorem tells_stop {id : SessionId} {now : Instant} (stopped : l.stopRecording id now = .ok after) :
    Tells l [] after := by
  have performed : (l.perform now (.stop id)).1 = after := by
    simp only [perform, stopped, settle]
  exact performed ▸ tells_quiet l (.stop id) now trivial (fun _ => rfl) rfl

-- An operation on the sessions themselves that opens, ends and fills none of them.
theorem tells_travel (l : Logbook) (operation : TimeTravel.Operation) (now : Instant)
    (fresh : (Step.travel operation).Fresh l.travel) (own : ∀ id, operation.touches id = false) :
    Tells l [] { l with travel := (l.travel.perform now operation).1 } :=
  tells_quiet l (.travel operation) now fresh own rfl

end Logbook

namespace Station

variable {s after : Station} {id : SessionId} {now : Instant}

theorem spawn_tells {device : String} {a : Automaton} {key : InstanceKey}
    (spawned : s.spawn device a now = .ok (after, key)) :
    s.logbook.Tells [.lifecycle key "started" now] after.logbook := by
  unfold spawn at spawned
  dsimp only at spawned
  split at spawned
  · cases spawned
  · cases started : (Instance.new device a now).start now with
    | error cause => rw [started] at spawned; cases spawned
    | ok i =>
      rw [started] at spawned
      cases spawned
      exact s.logbook.tells_record [.lifecycle (Instance.new device a now).key "started" now] now

-- Asking an instance to change its run state leaves no trace.
theorem command_logbook {key : InstanceKey} {change : Instance → Except EngineError Instance}
    (changed : s.command key change = .ok after) : after.logbook = s.logbook := by
  unfold command at changed
  split at changed
  · cases changed
  · cases changed
    rfl

theorem send_logbook (s : Station) (key : InstanceKey) (sent : Values) (now : Instant) :
    (s.send key sent now).logbook = s.logbook := by
  unfold send
  split <;> rfl

theorem driveReachable_tells (s : Station) (i : Instance) (now : Instant) :
    s.logbook.Tells [] (s.driveReachable i now).logbook := by
  unfold driveReachable
  dsimp only
  split
  · rename_i cause _
    exact s.logbook.tells_record [.tickFailed _ cause now] now
  · rename_i ticked
    rw [send_logbook]
    have quiet := Event.filter_isNews_eq_nil fun e member => by
      rw [(Instance.tick_notes ticked).2 e member]
      exact ⟨by decide, by decide⟩
    exact quiet ▸ s.logbook.tells_record _ now

theorem drive_tells (s : Station) (key : InstanceKey) (now : Instant) :
    s.logbook.Tells [] (s.drive key now).logbook := by
  unfold drive
  split
  · split
    · exact driveReachable_tells s _ now
    · exact .rest
  · exact .rest

theorem observe_tells (now : Instant) (s : Station) (device : String) :
    s.logbook.Tells [] (observe now s device).1.logbook := by
  refine Event.filter_isNews_eq_nil ?_ ▸ s.logbook.tells_record _ now
  intro e member
  split at member
  · split at member
    · cases member
    · rw [List.mem_singleton.mp member]
      exact ⟨by simp [Event.connectionChanged], by simp [Event.connectionChanged]⟩
  · cases member

theorem summarize_tells (now : Instant) (executions : List ExecutionSnapshot)
    (devices : List String) (s : Station) :
    s.logbook.Tells [] (summarize now executions devices s).1.logbook := by
  induction devices generalizing s with
  | nil => exact .rest
  | cons device rest ih => exact (observe_tells now s device).trans (ih (observe now s device).1)

theorem collect_tells (s : Station) (now : Instant) : s.logbook.Tells [] s.collect.logbook := by
  unfold collect
  split
  · exact s.logbook.tells_deliver _ now
  · exact .rest

theorem capture_tells (s : Station) (id : SessionId) (now : Instant) :
    s.logbook.Tells [] (s.capture id now).2.logbook :=
  ((summarize_tells now _ _ s).trans (collect_tells _ now)).trans
    (Logbook.tells_append _ id _ _ now)

theorem startRecording_logbook {options : RecordingOptions}
    (started : s.startRecording id options now = .ok after) :
    s.logbook.startRecording id options now = .ok after.logbook := by
  unfold startRecording at started
  cases begun : s.logbook.startRecording id options now with
  | error cause => rw [begun] at started; cases started
  | ok logbook =>
    rw [begun] at started
    cases started
    rfl

theorem stopRecording_tells (stopped : s.stopRecording id now = .ok after) :
    s.logbook.Tells [] after.logbook := by
  unfold stopRecording at stopped
  cases ended : s.logbook.stopRecording id now with
  | error cause => rw [ended] at stopped; cases stopped
  | ok logbook =>
    rw [ended] at stopped
    cases stopped
    exact Logbook.tells_stop ended

theorem stopPlayback_instances (s : Station) : s.stopPlayback.instances = s.instances := by
  unfold stopPlayback
  split <;> rfl

theorem stopPlayback_tells (s : Station) : s.logbook.Tells [] s.stopPlayback.logbook := by
  unfold stopPlayback
  split
  · exact .rest
  · rename_i screening _
    exact s.logbook.tells_travel (.pause screening.session) .epoch trivial fun _ => rfl

theorem play_tells (s : Station) (id : SessionId) (speed : Float) :
    s.logbook.Tells [] (s.play id speed).2.logbook := by
  refine (stopPlayback_tells s).trans ?_
  have plays := s.stopPlayback.logbook.tells_travel (.play id speed) .epoch trivial fun _ => rfl
  change s.stopPlayback.logbook.Tells []
    { s.stopPlayback.logbook with travel := (s.stopPlayback.travel.play id speed).2 } at plays
  unfold play
  dsimp only
  split
  · rename_i played
    rw [played] at plays
    exact plays
  · rename_i played
    rw [played] at plays
    split <;> exact plays

theorem playOn_tells (s : Station) (screening : Screening) :
    s.logbook.Tells [] (s.playOn screening).logbook := by
  have moves := s.logbook.tells_travel (.advance screening.session) .epoch trivial fun _ => rfl
  change s.logbook.Tells []
    { s.logbook with travel := (s.travel.advance screening.session).2 } at moves
  unfold playOn
  split
  · rename_i moved
    rw [moved] at moves
    exact moves
  · rename_i moved
    rw [moved] at moves
    exact moves

theorem ring_tells (s : Station) (t : Timer) (alarm : Alarm) (now : Instant) :
    s.logbook.Tells [] (s.ring t alarm now).logbook := by
  cases alarm with
  | tick key => exact drive_tells { s with tickTimers := s.tickTimers.insert key t.next } key now
  | capture id => exact capture_tells s id now
  | playback screening => exact playOn_tells s screening

theorem runUntil_tells (limit : Nat) (now : Instant) (fuel : Nat) (s : Station) :
    s.logbook.Tells [] (runUntil limit now fuel s).logbook := by
  induction fuel generalizing s with
  | zero => exact .rest
  | succ fuel ih =>
    unfold runUntil
    split
    · exact .rest
    · rename_i t alarm _
      exact (ring_tells { s with clock := max s.clock t.due } t alarm now).trans (ih _)

theorem advance_tells (s : Station) (nanoseconds : Nat) (now : Instant) :
    s.logbook.Tells [] (s.advance nanoseconds now).logbook :=
  runUntil_tells _ now _ s

theorem retire_tells (now : Instant) (s : Station) (key : InstanceKey) :
    s.logbook.Tells [.lifecycle key "stopped" now] (retire now s key).logbook := by
  have still : ((s.command key (·.stop now)).toOption.getD s).logbook = s.logbook := by
    cases commanded : s.command key (·.stop now) with
    | error cause => rfl
    | ok after => exact command_logbook commanded
  have recorded := ((s.command key (·.stop now)).toOption.getD s).logbook.tells_record
    [.lifecycle key "stopped" now] now
  rw [still] at recorded
  unfold retire record
  rw [still]
  exact recorded

-- Stopping everything tells of every instance once.
theorem shutdown_tells (s : Station) (now : Instant) :
    s.logbook.Tells (s.instances.keys.map (.lifecycle · "stopped" now)) (s.shutdown now).logbook := by
  have retired : ∀ (keys : List InstanceKey) (s : Station),
      s.logbook.Tells (keys.map (.lifecycle · "stopped" now)) (keys.foldl (retire now) s).logbook := by
    intro keys
    induction keys with
    | nil => exact fun s => .rest
    | cons key rest ih => exact fun s => (retire_tells now s key).trans (ih _)
  rw [← stopPlayback_instances s]
  exact (stopPlayback_tells s).trans (retired s.stopPlayback.instances.keys
    { s.stopPlayback with captureTimers := SortedMap.empty, tickTimers := SortedMap.empty })

-- Whatever is asked of a station, whatever becomes of its gateway, and whatever is done to its sessions
-- directly.
inductive Reached : Station → Prop where
  | new (host : Host) (gateway : Gateway) (tickInterval : Span) :
      Reached (.new host gateway tickInterval)
  | gateway {s : Station} (before : Reached s) (gateway : Gateway) : Reached { s with gateway }
  | spawned {s after : Station} (before : Reached s) {device : String} {a : Automaton}
      {now : Instant} {key : InstanceKey} (spawned : s.spawn device a now = .ok (after, key)) :
      Reached after
  | commanded {s after : Station} (before : Reached s) {key : InstanceKey}
      {change : Instance → Except EngineError Instance}
      (commanded : s.command key change = .ok after) : Reached after
  | started {s after : Station} (before : Reached s) {id : SessionId} {options : RecordingOptions}
      {now : Instant} (fresh : s.travel.session? id = none)
      (started : s.startRecording id options now = .ok after) : Reached after
  | stopped {s after : Station} (before : Reached s) {id : SessionId} {now : Instant}
      (stopped : s.stopRecording id now = .ok after) : Reached after
  | captured {s : Station} (before : Reached s) (id : SessionId) (now : Instant) :
      Reached (s.capture id now).2
  | played {s : Station} (before : Reached s) (id : SessionId) (speed : Float) :
      Reached (s.play id speed).2
  | paused {s : Station} (before : Reached s) : Reached s.stopPlayback
  | travelled {s : Station} (before : Reached s) (operation : TimeTravel.Operation) (now : Instant)
      (fresh : (Logbook.Step.travel operation).Fresh s.travel) :
      Reached (s.withTravel (s.travel.perform now operation).1)
  | advanced {s : Station} (before : Reached s) (nanoseconds : Nat) (now : Instant) :
      Reached (s.advance nanoseconds now)
  | shutdown {s : Station} (before : Reached s) (now : Instant) : Reached (s.shutdown now)

theorem Reached.leads (reached : Reached s) : Logbook.empty.Leads s.logbook := by
  induction reached with
  | new => exact .rest
  | gateway _ _ ih => exact ih
  | spawned _ spawned ih => exact ih.trans (spawn_tells spawned).leads
  | commanded _ commanded ih => exact command_logbook commanded ▸ ih
  | started _ fresh started ih =>
    exact ih.trans (Logbook.tells_start fresh (startRecording_logbook started)).leads
  | stopped _ stopped ih => exact ih.trans (stopRecording_tells stopped).leads
  | captured _ id now ih => exact ih.trans (capture_tells _ id now).leads
  | played _ id speed ih => exact ih.trans (play_tells _ id speed).leads
  | paused _ ih => exact ih.trans (stopPlayback_tells _).leads
  | travelled _ operation now fresh ih => exact ih.step (.travel operation) now fresh
  | advanced _ nanoseconds now ih => exact ih.trans (advance_tells _ nanoseconds now).leads
  | shutdown _ now ih => exact ih.trans (shutdown_tells _ now).leads

theorem Reached.runs (reached : Reached s) : ∃ log, Logbook.Runs s.logbook log := by
  obtain ⟨log, runs⟩ := reached.leads.runs .start
  exact ⟨_, runs⟩

end Station

end Chronomata
