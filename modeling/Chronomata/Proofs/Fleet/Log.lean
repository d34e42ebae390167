import Chronomata.Proofs.Fleet.Events
import Chronomata.Proofs.Fleet.Frames
import Chronomata.Proofs.Fleet.Isolation

-- The log of a fleet: the events of all frames that were taken, and those that are pending. It can be read
-- back: it tells every move of every instance, every failure and every connection, and it tells each once.
namespace Chronomata.Fleet

open Event

-- What the log is about. An instance that is not deployed counts as stopped, and a device that is
-- not known as connected, as they are when they come.
def runState (f : Fleet) (key : InstanceKey) : RunState := (f.instance? key).elim .stopped (·.runState)

def faulted (f : Fleet) (key : InstanceKey) : Bool := (f.instance? key).any (·.isFaulted)

def connection (f : Fleet) (device : String) : Connection := (f.connection? device).getD .connected

-- What is noted on the way from one fleet to another, and the instances that were reported as faulted.
structure Tells (f : Fleet) (news : List Event) (faults : List InstanceKey) (after : Fleet) : Prop where
  events : after.events = f.events ++ news
  moves : ∀ key, news.foldlM (follow key) (f.runState key) = some (after.runState key)
  switches : ∀ device, news.foldlM (switch device) (f.connection device) = some (after.connection device)
  failures : ∀ key, news.countP (isFailureOf key) = faults.count key
  falls : ∀ key, (f.faulted key).toNat + faults.count key = (after.faulted key).toNat

variable {f g after : Fleet} {news news' : List Event} {faults faults' : List InstanceKey} {now : Instant}
  {key : InstanceKey}

theorem Tells.trans (first : Tells f news faults g) (second : Tells g news' faults' after) :
    Tells f (news ++ news') (faults ++ faults') after where
  events := by rw [second.events, first.events, List.append_assoc]
  moves key := by rw [List.foldlM_append, first.moves]; exact second.moves key
  switches device := by rw [List.foldlM_append, first.switches]; exact second.switches device
  failures key := by rw [List.countP_append, List.count_append, first.failures, second.failures]
  falls key := by rw [List.count_append, ← Nat.add_assoc, first.falls, second.falls]

theorem Tells.quiet (events : after.events = f.events)
    (runState : ∀ key, after.runState key = f.runState key)
    (connection : ∀ device, after.connection device = f.connection device)
    (faulted : ∀ key, after.faulted key = f.faulted key) : Tells f [] [] after where
  events := by rw [events, List.append_nil]
  moves key := by rw [runState]; rfl
  switches device := by rw [connection]; rfl
  failures _ := rfl
  falls key := by rw [faulted]; rfl

theorem Tells.refl (f : Fleet) : Tells f [] [] f :=
  .quiet rfl (fun _ => rfl) (fun _ => rfl) fun _ => rfl

theorem addDevice_tells (f : Fleet) (device : String) : Tells f [] [] (f.addDevice device) := by
  refine .quiet rfl ?_ ?_ ?_
  · intro key
    rw [runState, instance?_addDevice, runState]
  · intro other
    rw [connection, connection?_addDevice, connection]
    split
    · rename_i fresh
      rw [fresh.1, fresh.2]
      rfl
    · rfl
  · intro key
    rw [faulted, instance?_addDevice, faulted]

theorem deploy_tells {device : String} {a : Automaton} (ready : a.Ready) (now : Instant) :
    Tells f [] [] (f.settle ((f.deploy device a now).map (·.1))) := by
  by_cases free : f.Deployable ⟨device, a.id⟩
  · obtain ⟨after, deployed, connections⟩ := @deploy_of_deployable f now device a free
    have there := deploy_ok deployed
    have absent : f.instance? ⟨device, a.id⟩ = none := free.2
    have events : after.events = f.events := by
      unfold deploy at deployed
      split at deployed
      · cases deployed
      · split_ifs at deployed
        cases deployed
        rfl
    rw [deployed]
    refine .quiet events ?_ ?_ ?_
    · intro key
      show after.runState key = _
      rw [runState, there, runState]
      split
      · rename_i same
        rw [same, absent]
        rfl
      · rfl
    · intro other
      show after.connection other = _
      rw [connection, connections, connection]
    · intro key
      show after.faulted key = _
      rw [faulted, there, faulted]
      split
      · rename_i same
        rw [same, absent]
        show (a.initial == errorState) = false
        refine beq_eq_false_iff_ne.mpr ?_
        intro fallen
        exact ready.wellFormed.reserved (fallen ▸ ready.wellFormed.initial)
      · rfl
  · obtain ⟨cause, refused⟩ := @deploy_of_not_deployable f now device a free
    rw [refused]
    exact .refl f

theorem setInput_tells (f : Fleet) (key : InstanceKey) (name : String) (value : Value) :
    Tells f [] [] (f.settle (f.setInput key name value)) := by
  have inputs : ∀ other, (f.settle (f.setInput key name value)).instance? other =
      if other = key then (f.instance? key).map (·.setInput name value) else f.instance? other :=
    instance?_changeInstance _
  refine .quiet ?_ ?_ ?_ ?_
  · unfold setInput
    cases changed : f.changeInstance key fun i => .ok (i.setInput name value) with
    | error cause => rfl
    | ok after =>
      obtain ⟨_, _, _, _, rfl⟩ := changeInstance_ok changed
      rfl
  · intro other
    rw [runState, inputs, runState]
    split
    · rename_i same
      rw [same]
      cases f.instance? key <;> rfl
    · rfl
  · intro device
    rw [connection, connection]
    exact congrArg (Option.getD · _) (connection?_changeInstance _ device)
  · intro other
    rw [faulted, inputs, faulted]
    split
    · rename_i same
      rw [same]
      cases f.instance? key <;> rfl
    · rfl

theorem move_tells (f : Fleet) (key : InstanceKey) (m : Move) (now : Instant) :
    ∃ news, Tells f news [] (f.settle (f.changeRunState key m.verb now (Instance.move m now))) := by
  cases made : f.changeRunState key m.verb now (Instance.move m now) with
  | error cause => exact ⟨[], .refl f⟩
  | ok after =>
    obtain ⟨before, i, found, moved, rfl⟩ := changeRunState_ok made
    unfold Instance.move Instance.changeRunState at moved
    split_ifs at moved with allowed
    cases moved
    have there := fun other => instance?_replaceInstance found
      (({ before with runState := m.target } : Instance).publish now) other
    refine ⟨[.lifecycle key m.verb now], rfl, ?_, ?_, ?_, ?_⟩
    · intro other
      show _ = some ((f.replaceInstance key _).runState other)
      simp only [List.foldlM_cons, List.foldlM_nil, bind_pure]
      rw [follow_lifecycle, runState, runState, there]
      split
      · rename_i same
        rw [same, found]
        exact if_pos allowed
      · rfl
    · intro device
      rw [foldlM_switch_of_other _ (by simp [lifecycle, about])]
      exact congrArg some (congrArg (Option.getD · _) (connection?_replaceInstance key _ device)).symm
    · exact fun other => countP_isFailureOf_of_other other (by simp [lifecycle, about])
    · intro other
      show (f.faulted other).toNat = ((f.replaceInstance key _).faulted other).toNat
      rw [faulted, faulted, there]
      split
      · rename_i same
        rw [same, found]
        rfl
      · rfl

theorem startAll_tells (f : Fleet) (now : Instant) : ∃ news, Tells f news [] (f.startAll now) := by
  unfold startAll
  generalize (f.instances.filter (·.runState == .stopped)).map (·.key) = keys
  induction keys generalizing f with
  | nil => exact ⟨[], .refl f⟩
  | cons key rest ih =>
    obtain ⟨news, first⟩ := move_tells f key .start now
    obtain ⟨later, second⟩ := ih (f.settle (f.start key now))
    exact ⟨news ++ later, first.trans second⟩

theorem setConnection_tells (f : Fleet) (device : String) (connection : Connection) (now : Instant) :
    ∃ news, Tells f news [] (f.settle (f.setConnection device connection now)) := by
  have connections : ∀ other, (f.settle (f.setConnection device connection now)).connection other =
      ((if other = device then (f.connection? device).map fun _ => connection
        else f.connection? other).getD .connected) :=
    fun other => congrArg (Option.getD · _) (connection?_setConnection device connection other)
  have instances := @instance?_settle_setConnection f now device connection
  cases set : f.setConnection device connection now with
  | error cause => exact ⟨[], .refl f⟩
  | ok after =>
    rw [set] at connections instances
    unfold setConnection at set
    split at set
    · cases set
    · rename_i d found
      split_ifs at set with same
      · cases set
        exact ⟨[], .refl _⟩
      · cases set
        refine ⟨[.connectionChanged device connection now], rfl, ?_, ?_, ?_, ?_⟩
        · intro key
          rw [foldlM_follow_of_other _ (by simp [connectionChanged]), runState, runState, instances]
        · intro other
          simp only [List.foldlM_cons, List.foldlM_nil, bind_pure]
          rw [connections, Fleet.connection]
          split
          · rename_i here
            rw [here, connection?, found]
            exact switch_connectionChanged same device now
          · rename_i elsewhere
            exact switch_elsewhere elsewhere _ _
        · exact fun key => countP_isFailureOf_of_other key (by simp [connectionChanged])
        · intro key
          rw [faulted, faulted, instances]
          rfl

theorem tick_faulted (host : Host) (now : Instant) :
    (f.tick host now).2.faulted = ((f.outcomes host now).filter fun o =>
      !o.report.events.isEmpty && o.report.snapshot.isFaulted).map (·.key) := by
  unfold tick outcomes
  simp only [steps_eq]

-- An instance that comes into the error state is reported as faulted, and no other one is.
theorem Laid.outcome_tells (laid : Laid f) {host : Host} {o : Outcome} (member : o ∈ f.outcomes host now) :
    ∃ i after, f.Ticks o.key i ∧ i.tick host now = .ok (after, o.report) ∧
      after.runState = i.runState ∧
      ((o.report.events = [] ∧ after.isFaulted = i.isFaulted) ∨
        (∃ message, o.report.events = [.about o.key now .error .scriptFailure message]) ∧
          o.report.snapshot.isFaulted = true ∧ i.isFaulted = false ∧ after.isFaulted = true) := by
  obtain ⟨i, after, ticks, ticked, _⟩ := laid.mem_outcomes.mp member
  obtain ⟨runState, shown, told⟩ := (laid _ _ ticks.2.1).tick_tells ticked
  refine ⟨i, after, ticks, ticked, runState, told.imp_right ?_⟩
  rintro ⟨noted, before, fallen⟩
  exact ⟨noted, shown.trans fallen, before, fallen⟩

-- The failures that are noted of an instance are its reports as faulted.
theorem Laid.countP_outcomes (laid : Laid f) (host : Host) (now : Instant) (key : InstanceKey) :
    ((f.outcomes host now).flatMap fun o => o.report.events).countP (isFailureOf key) =
      (f.tick host now).2.faulted.count key := by
  rw [tick_faulted]
  have told := fun o (member : o ∈ f.outcomes host now) => laid.outcome_tells member
  generalize f.outcomes host now = outcomes at told
  induction outcomes with
  | nil => rfl
  | cons o rest ih =>
    have later := ih fun o member => told o (List.mem_cons_of_mem _ member)
    rw [List.flatMap_cons, List.countP_append, later, List.filter_cons]
    obtain ⟨_, _, _, _, _, ⟨none, _⟩ | ⟨⟨message, one⟩, shown, _⟩⟩ := told o List.mem_cons_self
    · simp [none]
    · simp [one, shown, List.count_cons, isFailureOf, about, Nat.add_comm]

theorem Laid.mem_faulted (laid : Laid f) {host : Host} :
    key ∈ (f.tick host now).2.faulted ↔ ∃ i after own, f.Ticks key i ∧
      i.tick host now = .ok (after, own) ∧ i.isFaulted = false ∧ after.isFaulted = true := by
  rw [tick_faulted, List.mem_map]
  constructor
  · rintro ⟨o, member, rfl⟩
    obtain ⟨listed, told⟩ := List.mem_filter.mp member
    obtain ⟨i, after, ticks, ticked, _, ⟨none, _⟩ | ⟨_, _, before, fallen⟩⟩ := laid.outcome_tells listed
    · simp [none] at told
    · exact ⟨i, after, _, ticks, ticked, before, fallen⟩
  · rintro ⟨i, after, own, ticks, ticked, before, fallen⟩
    refine ⟨⟨key, channelValues i.automaton own.emitted, own⟩, List.mem_filter.mpr ⟨?_, ?_⟩, rfl⟩
    · exact laid.mem_outcomes.mpr ⟨i, after, ticks, ticked, rfl⟩
    · obtain ⟨_, shown, ⟨_, same⟩ | ⟨⟨message, one⟩, _⟩⟩ := (laid _ _ ticks.2.1).tick_tells ticked
      · cases (same.symm.trans fallen).symm.trans before
      · simp [one, shown, fallen]

theorem Laid.faulted_nodup (laid : Laid f) (host : Host) (now : Instant) :
    (f.tick host now).2.faulted.Nodup := by
  have ordered : InKeyOrder (f.tick host now).2.faulted := by
    rw [tick_faulted]
    exact (laid.outcomes_inKeyOrder host now).sublist (List.Sublist.map _ List.filter_sublist)
  exact ordered.imp fun before => ne_of_compare_lt before

-- Messages change neither a run state nor whether an instance is faulted, so only its own tick counts.
theorem Laid.tick_views (laid : Laid f) (host : Host) (now : Instant) (key : InstanceKey) :
    (f.tick host now).1.runState key = (f.stepped host now).runState key ∧
      (f.tick host now).1.faulted key = (f.stepped host now).faulted key := by
  rw [runState, faulted, laid.after, runState, faulted]
  cases (f.stepped host now).instance? key with
  | none => exact ⟨rfl, rfl⟩
  | some i =>
    rw [Option.map_some, Instance.setInputs_eq]
    exact ⟨rfl, rfl⟩

theorem Laid.stepped_views (laid : Laid f) (host : Host) (now : Instant) (key : InstanceKey) :
    (f.stepped host now).runState key = f.runState key ∧
      (f.faulted key).toNat + (f.tick host now).2.faulted.count key =
        ((f.stepped host now).faulted key).toNat := by
  rw [(laid.faulted_nodup host now).count]
  cases found : f.instance? key with
  | none =>
    have absent : (f.stepped host now).instance? key = none := by rw [instance?_stepped, found]; rfl
    have quiet : key ∉ (f.tick host now).2.faulted := by
      intro member
      obtain ⟨_, _, _, ticks, _⟩ := laid.mem_faulted.mp member
      cases found.symm.trans ticks.2.1
    rw [runState, runState, faulted, faulted, absent, found, if_neg quiet]
    exact ⟨rfl, rfl⟩
  | some i =>
    by_cases ticks : f.Ticks key i
    · obtain ⟨after, own, ticked⟩ := laid.ticks ticks host now
      obtain ⟨same, _, told⟩ := (laid _ _ found).tick_tells ticked
      rw [runState, runState, faulted, faulted, instance?_stepped_of_tick ticks ticked, found]
      refine ⟨same, ?_⟩
      rw [Option.any_some, Option.any_some]
      rcases told with ⟨_, same⟩ | ⟨_, before, fallen⟩
      · rw [if_neg, same]
        · rfl
        · intro member
          obtain ⟨_, _, _, ticks', ticked', before, fallen⟩ := laid.mem_faulted.mp member
          cases found.symm.trans ticks'.2.1
          cases ticked.symm.trans ticked'
          cases (same.symm.trans fallen).symm.trans before
      · rw [if_pos (laid.mem_faulted.mpr ⟨i, after, own, ticks, ticked, before, fallen⟩), before, fallen]
        rfl
    · have quiet : key ∉ (f.tick host now).2.faulted := by
        intro member
        obtain ⟨_, _, _, ticks', _⟩ := laid.mem_faulted.mp member
        cases found.symm.trans ticks'.2.1
        exact ticks ticks'
      rw [runState, runState, faulted, faulted, instance?_stepped_of_resting found ticks, found,
        if_neg quiet]
      exact ⟨rfl, rfl⟩

theorem Laid.tick_tells (laid : Laid f) (host : Host) (now : Instant) :
    ∃ news, Tells f news (f.tick host now).2.faulted (f.tick host now).1 := by
  have delivered := laid.delivered host now
  have events := delivered.events
  rw [laid.stepped_events, List.append_assoc] at events
  have failures : ∀ e ∈ (f.outcomes host now).flatMap fun o => o.report.events,
      e.kind = .scriptFailure := by
    intro e member
    obtain ⟨o, listed, noted⟩ := List.mem_flatMap.mp member
    obtain ⟨_, _, _, ticked, _⟩ := laid.mem_outcomes.mp listed
    exact (Instance.tick_notes ticked).2 e noted
  have drops : ∀ messages : List Message, ∀ e ∈ messages.map (·.dropped now), e.kind = .messageDropped := by
    intro messages e member
    obtain ⟨m, _, rfl⟩ := List.mem_map.mp member
    rfl
  refine ⟨_, events, ?_, ?_, ?_, ?_⟩
  · intro key
    rw [foldlM_follow_of_other, (laid.tick_views host now key).1, (laid.stepped_views host now key).1]
    intro e member
    rcases List.mem_append.mp member with failure | drop
    · simp [failures e failure]
    · simp [drops _ e drop]
  · intro device
    rw [foldlM_switch_of_other, Fleet.connection, Fleet.connection, connection?_tick]
    intro e member
    rcases List.mem_append.mp member with failure | drop
    · simp [failures e failure]
    · simp [drops _ e drop]
  · intro key
    rw [List.countP_append, laid.countP_outcomes, countP_isFailureOf_of_other, Nat.add_zero]
    intro e member
    simp [drops _ e member]
  · intro key
    rw [(laid.tick_views host now key).2]
    exact (laid.stepped_views host now key).2

theorem perform_tells (reached : Reached f) {operation : Operation} (keeps : operation.takes = false)
    (now : Instant) :
    ∃ news, Tells f news ((f.reports [⟨operation, now⟩]).flatMap (·.faulted)) (f.perform now operation) := by
  cases operation with
  | addDevice device => exact ⟨[], addDevice_tells f device⟩
  | deploy device a ready => exact ⟨[], deploy_tells ready now⟩
  | start key => exact move_tells f key .start now
  | pause key => exact move_tells f key .pause now
  | resume key => exact move_tells f key .resume now
  | stop key => exact move_tells f key .stop now
  | startAll => exact startAll_tells f now
  | setInput key name value => exact ⟨[], setInput_tells f key name value⟩
  | setConnection device connection => exact setConnection_tells f device connection now
  | tick host =>
    have reported : (f.reports [⟨.tick host, now⟩]).flatMap (·.faulted) = (f.tick host now).2.faulted :=
      List.append_nil _
    rw [reported]
    exact (reached_laid reached).tick_tells host now
  | takeFrame => cases keeps

theorem run_tells (reached : Reached f) {entries : List Entry}
    (keeps : ∀ e ∈ entries, e.operation.takes = false) :
    ∃ news, Tells f news ((f.reports entries).flatMap (·.faulted)) (f.run entries) := by
  induction entries generalizing f with
  | nil => exact ⟨[], .refl f⟩
  | cons e rest ih =>
    obtain ⟨news, first⟩ := perform_tells reached (keeps e List.mem_cons_self) e.now
    obtain ⟨later, second⟩ := ih (perform_reached reached e.operation e.now)
      fun e member => keeps e (List.mem_cons_of_mem _ member)
    rw [reports_cons, List.flatMap_append]
    exact ⟨news ++ later, first.trans second⟩

-- Whatever is done with a fleet, and whenever frames are taken, its log can be replayed: the lifecycle events of
-- an instance are moves that are allowed one after the other, from stopped to the run state that it is in; the
-- connection events of a device go back and forth, from connected to the connection that there is. An instance
-- that is in the error state failed once, and was reported once. Frames neither lose nor repeat an event.
theorem logged_exact (entries : List Entry) :
    (∀ key i, (empty.run entries).instance? key = some i →
      (empty.log entries).foldlM (follow key) .stopped = some i.runState ∧
      (empty.log entries).countP (isFailureOf key) = (if i.isFaulted then 1 else 0) ∧
      ((empty.reports entries).flatMap (·.faulted)).count key = if i.isFaulted then 1 else 0) ∧
    (∀ device connection, (empty.run entries).connection? device = some connection →
      (empty.log entries).foldlM (switch device) .connected = some connection) ∧
    empty.log entries = (empty.run (untaken entries)).events := by
  obtain ⟨news, tells⟩ := run_tells .empty (untaken_keeps entries)
  have events : empty.log entries = news := (log_untaken empty entries).trans tells.events
  have devices : (empty.run (untaken entries)).devices = (empty.run entries).devices := by
    rw [run_untaken]
    rfl
  have instances : ∀ key, (empty.run (untaken entries)).instance? key =
      (empty.run entries).instance? key := fun key => by rw [Fleet.instance?, devices, Fleet.instance?]
  rw [reports_untaken, ← events] at tells
  refine ⟨?_, ?_, log_untaken empty entries⟩
  · intro key i found
    have runState : (empty.run (untaken entries)).runState key = i.runState := by
      rw [Fleet.runState, instances, found]
      rfl
    have faulted : (empty.run (untaken entries)).faulted key = i.isFaulted := by
      rw [Fleet.faulted, instances, found]
      rfl
    have once : ((empty.reports entries).flatMap (·.faulted)).count key = if i.isFaulted then 1 else 0 := by
      have falls := tells.falls key
      rw [faulted, show empty.faulted key = false from rfl, Bool.toNat_false, Nat.zero_add] at falls
      rw [falls]
      cases i.isFaulted <;> rfl
    exact ⟨runState ▸ tells.moves key, (tells.failures key).trans once, once⟩
  · intro device there known
    have connection : (empty.run (untaken entries)).connection device = there := by
      rw [Fleet.connection, Fleet.connection?, devices]
      exact congrArg (Option.getD · _) known
    exact connection ▸ tells.switches device

-- An alarm that fails, on a device that is lost: what happened is spread over two frames and what is
-- pending.
namespace Alarming

def story : List Entry :=
  [.addDevice "a", .deploy "a" (alarm "fail") alarm_ready.1, .start place, .pause place, .takeFrame,
    .resume place, .tick alarmer, .tick alarmer, .takeFrame, .setConnection "a" .disconnected,
    .stop place].map (⟨·, .epoch⟩)

end Alarming

open Alarming in
theorem logged_exact_alarming :
    (empty.frames story).map (·.events.length) = [2, 2] ∧ (empty.run story).events.length = 2 ∧
      (empty.log story).filterMap (·.move? place) = [.start, .pause, .resume, .stop] ∧
      (empty.log story).foldlM (follow place) .stopped = some .stopped ∧
      (empty.log story).countP (isFailureOf place) = 1 ∧
      (empty.log story).foldlM (switch "a") .connected = some .disconnected := by
  obtain ⟨instances, devices, _⟩ := logged_exact story
  have state : ((empty.run story).instance? place).map (fun i => (i.runState, i.isFaulted)) =
      some (.stopped, true) := by decide +kernel
  obtain ⟨i, found, both⟩ := Option.map_eq_some_iff.mp state
  obtain ⟨moves, failures, _⟩ := instances place i found
  obtain ⟨stopped, fallen⟩ := Prod.mk.inj both
  rw [stopped] at moves
  rw [fallen] at failures
  exact ⟨by decide +kernel, by decide +kernel, by decide +kernel, moves, failures,
    devices "a" .disconnected (by decide +kernel)⟩

end Chronomata.Fleet
