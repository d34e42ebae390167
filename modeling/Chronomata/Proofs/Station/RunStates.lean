import Chronomata.Proofs.Station.Operations

-- The instances of a station and their run states: what an operation does to the instances, and that every
-- instance that there is stands under its key and is not stopped before the station is shut down.
namespace Chronomata.Station

variable {s after : Station} {now : Instant} {key : InstanceKey}

def runState? (s : Station) (key : InstanceKey) : Option RunState := (s.instances.get? key).map (·.runState)

-- Every instance stands under its own key.
def Filed (s : Station) : Prop := ∀ key i, s.instances.get? key = some i → i.key = key

-- On the way from one station to another no instance comes, goes, or changes its run state.
def Steady (s after : Station) : Prop := s.Filed → after.Filed ∧ ∀ key, after.runState? key = s.runState? key

theorem Steady.of_instances (same : after.instances = s.instances) : Steady s after := by
  intro filed
  refine ⟨?_, ?_⟩
  · intro key i
    rw [same]
    exact filed key i
  · intro key
    rw [runState?, same, runState?]

theorem Steady.trans {middle : Station} (first : Steady s middle) (second : Steady middle after) :
    Steady s after := by
  intro filed
  obtain ⟨filed, same⟩ := first filed
  obtain ⟨filed, same'⟩ := second filed
  exact ⟨filed, fun key => (same' key).trans (same key)⟩

-- An instance takes the place of the one under its key.
theorem Steady.of_insert {i i' : Instance} (found : s.instances.get? i.key = some i)
    (key : i'.key = i.key) (runState : i'.runState = i.runState)
    (stored : after.instances = s.instances.insert i'.key i') : Steady s after := by
  intro filed
  refine ⟨?_, ?_⟩
  · intro other j there
    rw [stored, SortedMap.get?_insert] at there
    split_ifs at there with same
    · cases there
      exact same.symm
    · exact filed other j there
  · intro other
    rw [runState?, stored, SortedMap.get?_insert, runState?]
    split
    · rename_i same
      rw [same, key, found, Option.map_some, Option.map_some, runState]
    · rfl

theorem send_instances (s : Station) (key : InstanceKey) (sent : Values) (now : Instant) :
    (s.send key sent now).instances = s.instances := by
  unfold send
  split <;> rfl

-- What a turn of its timer makes of an instance: it takes its inputs, and ticks unless that is refused.
inductive Driven (host : Host) (now : Instant) (i : Instance) : Instance → Prop where
  | fed (inputs : List (String × Value)) : Driven host now i (i.setInputs inputs)
  | ticked {inputs : List (String × Value)} {after : Instance} {report : Instance.TickReport}
      (ticked : (i.setInputs inputs).tick host now = .ok (after, report)) : Driven host now i after

theorem Driven.kept {host : Host} {i i' : Instance} (driven : Driven host now i i') :
    i'.key = i.key ∧ i'.runState = i.runState := by
  cases driven with
  | fed inputs =>
    rw [Instance.setInputs_eq]
    exact ⟨rfl, rfl⟩
  | @ticked inputs _ _ ticked =>
    have fed : (i.setInputs inputs).key = i.key ∧ (i.setInputs inputs).runState = i.runState := by
      rw [Instance.setInputs_eq]
      exact ⟨rfl, rfl⟩
    exact ⟨(Instance.tick_kept ticked).1.trans fed.1, (Instance.tick_notes ticked).1.trans fed.2⟩

theorem driveReachable_instances (s : Station) (i : Instance) (now : Instant) :
    ∃ i', Driven s.host now i i' ∧ (s.driveReachable i now).instances = s.instances.insert i'.key i' := by
  unfold driveReachable
  dsimp only
  have fed : Driven s.host now i (i.setInputs _) :=
    .fed ((s.gateway.fetch i.key).toOption.getD (s.gateway, [])).2
  have key := fed.kept.1
  split
  · refine ⟨_, fed, ?_⟩
    rw [key]
    rfl
  · rename_i after _ ticked
    have driven := Driven.ticked ticked
    refine ⟨after, driven, (send_instances _ _ _ _).trans ?_⟩
    exact congrArg (s.instances.insert · after) (key.trans driven.kept.1.symm)

-- A turn of the timer drives the instance under the key, or nothing is done.
theorem drive_instances (s : Station) (key : InstanceKey) (now : Instant) :
    (s.drive key now).instances = s.instances ∨
      ∃ i i', s.instances.get? key = some i ∧ Driven s.host now i i' ∧
        (s.drive key now).instances = s.instances.insert i'.key i' := by
  unfold drive
  split
  · rename_i i found _
    split
    · obtain ⟨i', driven, stored⟩ := driveReachable_instances s i now
      exact .inr ⟨i, i', found, driven, stored⟩
    · exact .inl rfl
  · exact .inl rfl

theorem drive_steady (s : Station) (key : InstanceKey) (now : Instant) : Steady s (s.drive key now) := by
  intro filed
  rcases drive_instances s key now with still | ⟨i, i', found, driven, stored⟩
  · exact Steady.of_instances still filed
  · have found : s.instances.get? i.key = some i := by rw [filed key i found, found]
    exact Steady.of_insert found driven.kept.1 driven.kept.2 stored filed

theorem summarize_instances (now : Instant) (executions : List ExecutionSnapshot) (devices : List String)
    (s : Station) : (summarize now executions devices s).1.instances = s.instances := by
  induction devices generalizing s with
  | nil => rfl
  | cons device rest ih => exact ih (observe now s device).1

theorem collect_instances (s : Station) : s.collect.instances = s.instances := by
  unfold collect
  split <;> rfl

theorem capture_instances (s : Station) (id : SessionId) (now : Instant) :
    (s.capture id now).2.instances = s.instances :=
  (collect_instances _).trans (summarize_instances now _ _ s)

theorem playOn_instances (s : Station) (screening : Screening) :
    (s.playOn screening).instances = s.instances := by
  unfold playOn
  split <;> rfl

theorem ring_steady (s : Station) (t : Timer) (alarm : Alarm) (now : Instant) :
    Steady s (s.ring t alarm now) := by
  cases alarm with
  | tick key =>
    exact (drive_steady { s with tickTimers := s.tickTimers.insert key t.next } key now)
  | capture id => exact .of_instances (capture_instances s id now)
  | playback screening => exact .of_instances (playOn_instances s screening)

theorem runUntil_steady (limit : Nat) (now : Instant) (fuel : Nat) (s : Station) :
    Steady s (runUntil limit now fuel s) := by
  induction fuel generalizing s with
  | zero => exact .of_instances rfl
  | succ fuel ih =>
    unfold runUntil
    split
    · exact .of_instances rfl
    · rename_i t alarm _
      exact (ring_steady { s with clock := max s.clock t.due } t alarm now).trans (ih _)

theorem advance_steady (s : Station) (nanoseconds : Nat) (now : Instant) :
    Steady s (s.advance nanoseconds now) :=
  runUntil_steady _ now _ s

theorem play_instances (s : Station) (id : SessionId) (speed : Float) :
    (s.play id speed).2.instances = s.instances := by
  rw [← stopPlayback_instances s]
  unfold play
  dsimp only
  split
  · rfl
  · split <;> rfl

theorem startRecording_instances {id : SessionId} {options : RecordingOptions}
    (started : s.startRecording id options now = .ok after) : after.instances = s.instances := by
  unfold startRecording at started
  cases begun : s.logbook.startRecording id options now with
  | error cause => rw [begun] at started; cases started
  | ok logbook => rw [begun] at started; cases started; rfl

theorem stopRecording_instances {id : SessionId} (stopped : s.stopRecording id now = .ok after) :
    after.instances = s.instances := by
  unfold stopRecording at stopped
  cases ended : s.logbook.stopRecording id now with
  | error cause => rw [ended] at stopped; cases stopped
  | ok logbook => rw [ended] at stopped; cases stopped; rfl

theorem spawn_ok {device : String} {a : Automaton} (spawned : s.spawn device a now = .ok (after, key)) :
    s.instances.get? key = none ∧ ∃ i, i.key = key ∧ i.runState = .running ∧ i.cycle = 0 ∧
      i.latest = i.snapshot now ∧ after.instances = s.instances.insert key i := by
  unfold spawn at spawned
  dsimp only at spawned
  split at spawned
  · cases spawned
  · rename_i fresh
    cases spawned
    refine ⟨?_, ((Instance.new device a now).start now).toOption.getD (.new device a now), rfl, rfl, rfl,
      rfl, rfl⟩
    simpa [SortedMap.contains] using fresh

theorem command_get? (change : Instance → Except EngineError Instance) (other : InstanceKey) :
    (s.orStay (s.command key change)).instances.get? other =
      if other = key then (s.instances.get? key).map fun i => (change i).toOption.getD i
      else s.instances.get? other := by
  unfold command
  cases found : s.instances.get? key with
  | none =>
    show s.instances.get? other = _
    split
    · rename_i same
      rw [same, found]
      rfl
    · rfl
  | some i => exact SortedMap.get?_insert _ _ _ _

-- A change that is refused counts as none.
theorem changeRunState_or_same (now : Instant) (sources : List RunState) (target : RunState)
    (action : String) (i : Instance) :
    ((i.changeRunState now sources target action).toOption.getD i).key = i.key ∧
      ((i.changeRunState now sources target action).toOption.getD i).runState =
        if sources.contains i.runState then target else i.runState := by
  unfold Instance.changeRunState
  by_cases allowed : sources.contains i.runState
  · simp only [allowed, if_true]
    exact ⟨rfl, rfl⟩
  · simp only [allowed]
    exact ⟨rfl, rfl⟩

section

variable {sources : List RunState} {target : RunState} {action : String}

theorem command_filed (filed : s.Filed) :
    (s.orStay (s.command key (·.changeRunState now sources target action))).Filed := by
  intro other i there
  rw [command_get?] at there
  split at there
  · rename_i same
    obtain ⟨before, found, rfl⟩ := Option.map_eq_some_iff.mp there
    exact ((changeRunState_or_same now sources target action before).1.trans (filed _ _ found)).trans
      same.symm
  · exact filed other i there

theorem command_runState? (other : InstanceKey) :
    (s.orStay (s.command key (·.changeRunState now sources target action))).runState? other =
      if other = key then
        (s.runState? key).map fun state => if sources.contains state then target else state
      else s.runState? other := by
  rw [runState?, command_get?, runState?, runState?]
  split
  · rw [Option.map_map, Option.map_map]
    congr 1
    funext i
    exact (changeRunState_or_same now sources target action i).2
  · rfl

end

theorem retire_runState? (now : Instant) (s : Station) (key other : InstanceKey) :
    (retire now s key).runState? other =
      if other = key then (s.runState? key).map fun _ => .stopped else s.runState? other := by
  have commanded : (s.orStay (s.command key (·.stop now))).runState? other = _ := command_runState? other
  refine Eq.trans commanded ?_
  congr 2
  funext state
  cases state <;> rfl

theorem foldl_retire_runState? (now : Instant) (keys : List InstanceKey) (s : Station)
    (other : InstanceKey) :
    (keys.foldl (retire now) s).runState? other =
      if other ∈ keys then (s.runState? other).map fun _ => .stopped else s.runState? other := by
  induction keys generalizing s with
  | nil => rfl
  | cons key rest ih =>
    rw [List.foldl_cons, ih, retire_runState?]
    by_cases same : other = key
    · subst same
      simp [Function.comp_def]
    · simp [same]

theorem shutdown_runState? (s : Station) (now : Instant) (key : InstanceKey) :
    (s.shutdown now).runState? key = (s.runState? key).map fun _ => .stopped := by
  refine (foldl_retire_runState? now _ _ key).trans ?_
  rw [stopPlayback_instances]
  show (if key ∈ s.instances.keys then (s.stopPlayback.runState? key).map _
    else s.stopPlayback.runState? key) = _
  rw [runState?, runState?, stopPlayback_instances]
  split
  · rfl
  · rename_i absent
    cases found : s.instances.get? key with
    | none => rfl
    | some i => exact absurd (SortedMap.mem_keys.mpr ⟨i, found⟩) absent

-- A station that was not shut down.
structure Living (s : Station) : Prop where
  filed : s.Filed
  alive : ∀ key, s.runState? key ≠ some .stopped

theorem Steady.living (steady : Steady s after) (living : s.Living) : after.Living := by
  obtain ⟨filed, same⟩ := steady living.filed
  exact ⟨filed, fun key => same key ▸ living.alive key⟩

-- What neither asks an instance for anything nor brings one about.
def Operation.isSteady : Operation → Bool
  | .spawn _ _ | .pause _ | .resume _ | .shutdown => false
  | _ => true

theorem orStay_instances {ε : Type} {outcome : Except ε Station}
    (same : ∀ after, outcome = .ok after → after.instances = s.instances) :
    (s.orStay outcome).instances = s.instances := by
  cases outcome with
  | error cause => rfl
  | ok after => exact same after rfl

-- Only time makes steady changes to instances.
theorem perform_instances (s : Station) (now : Instant) {operation : Operation}
    (quiet : operation.isSteady = true) (timeless : ∀ nanoseconds, operation ≠ .advance nanoseconds) :
    (s.perform now operation).instances = s.instances := by
  cases operation with
  | gateway change => rfl
  | spawn device a => cases quiet
  | pause key => cases quiet
  | resume key => cases quiet
  | startRecording id options => exact orStay_instances fun _ done => startRecording_instances done
  | stopRecording id => exact orStay_instances fun _ done => stopRecording_instances done
  | capture id => exact capture_instances s id now
  | play id speed => exact play_instances s id speed
  | stopPlayback => exact stopPlayback_instances s
  | travel operation => rfl
  | advance nanoseconds => exact absurd rfl (timeless nanoseconds)
  | shutdown => cases quiet

theorem perform_steady (s : Station) (now : Instant) {operation : Operation}
    (quiet : operation.isSteady = true) : Steady s (s.perform now operation) := by
  cases operation with
  | advance nanoseconds => exact advance_steady s nanoseconds now
  | _ => exact .of_instances (perform_instances s now quiet (by simp))

theorem spawn_runState? {device : String} {a : Automaton} (spawned : s.spawn device a now = .ok (after, key))
    (other : InstanceKey) :
    after.runState? other = if other = key then some .running else s.runState? other := by
  obtain ⟨_, i, _, running, _, _, stored⟩ := spawn_ok spawned
  rw [runState?, stored, SortedMap.get?_insert, runState?]
  split
  · rw [Option.map_some, running]
  · rfl

theorem spawn_living {device : String} {a : Automaton} (spawned : s.spawn device a now = .ok (after, key))
    (living : s.Living) : after.Living := by
  obtain ⟨_, i, filed, _, _, _, stored⟩ := spawn_ok spawned
  refine ⟨?_, ?_⟩
  · intro other j there
    rw [stored, SortedMap.get?_insert] at there
    split_ifs at there with same
    · cases there
      exact filed.trans same.symm
    · exact living.filed other j there
  · intro other
    rw [spawn_runState? spawned]
    split
    · decide
    · exact living.alive other

theorem command_living {sources : List RunState} {target : RunState} {action : String}
    (alive : target ≠ .stopped) (living : s.Living) :
    (s.orStay (s.command key (·.changeRunState now sources target action))).Living := by
  refine ⟨command_filed living.filed, ?_⟩
  intro other stopped
  rw [command_runState?] at stopped
  split at stopped
  · obtain ⟨state, before, becomes⟩ := Option.map_eq_some_iff.mp stopped
    split at becomes
    · exact alive becomes
    · exact living.alive key (before.trans (congrArg some becomes))
  · exact living.alive other stopped

theorem Passage.living {p : Passage} (living : p.before.Living) (works : p.operation ≠ .shutdown) :
    p.after.Living := by
  obtain ⟨s, operation, now⟩ := p
  cases quiet : operation.isSteady with
  | true => exact (perform_steady s now quiet).living living
  | false =>
    cases operation with
    | spawn device a =>
      show (s.orStay ((s.spawn device a now).map (·.1))).Living
      cases spawned : s.spawn device a now with
      | error cause => exact living
      | ok both => exact spawn_living spawned living
    | pause key => exact command_living (by decide) living
    | resume key => exact command_living (by decide) living
    | shutdown => exact absurd rfl works
    | _ => cases quiet

end Chronomata.Station
