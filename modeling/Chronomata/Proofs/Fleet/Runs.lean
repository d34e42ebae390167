import Chronomata.Proofs.Fleet.Tick

-- Runs of a fleet: any operations in any order. Each of them is told by what it does to the instance
-- under every key and to the connection of every device.
namespace Chronomata.Fleet

-- What can be asked of a fleet. Only what a program can come to hold can be deployed.
inductive Operation where
  | addDevice (device : String)
  | deploy (device : String) (a : Automaton) (ready : a.Ready)
  | start (key : InstanceKey)
  | pause (key : InstanceKey)
  | resume (key : InstanceKey)
  | stop (key : InstanceKey)
  | startAll
  | setInput (key : InstanceKey) (name : String) (value : Value)
  | setConnection (device : String) (connection : Connection)
  | tick (host : Host)
  | takeFrame

-- What is refused leaves the fleet as it was.
def settle (f : Fleet) (outcome : Except EngineError Fleet) : Fleet := outcome.toOption.getD f

def perform (f : Fleet) (now : Instant) : Operation → Fleet
  | .addDevice device => f.addDevice device
  | .deploy device a _ => f.settle ((f.deploy device a now).map (·.1))
  | .start key => f.settle (f.start key now)
  | .pause key => f.settle (f.pause key now)
  | .resume key => f.settle (f.resume key now)
  | .stop key => f.settle (f.stop key now)
  | .startAll => f.startAll now
  | .setInput key name value => f.settle (f.setInput key name value)
  | .setConnection device connection => f.settle (f.setConnection device connection now)
  | .tick host => (f.tick host now).1
  | .takeFrame => f.takeFrame.1

-- One operation of a run, and when it is done.
structure Entry where
  operation : Operation
  now : Instant

def run (f : Fleet) (entries : List Entry) : Fleet :=
  entries.foldl (fun f e => f.perform e.now e.operation) f

variable {f : Fleet} {now : Instant} {key : InstanceKey}

theorem settle_reached (reached : Reached f) {outcome : Except EngineError Fleet}
    (kept : ∀ after, outcome = .ok after → Reached after) : Reached (f.settle outcome) := by
  cases outcome with
  | ok after => exact kept after rfl
  | error cause => exact reached

theorem perform_reached (reached : Reached f) (operation : Operation) (now : Instant) :
    Reached (f.perform now operation) := by
  cases operation with
  | addDevice device => exact reached.addDevice device
  | deploy device a ready =>
    refine settle_reached reached ?_
    intro after mapped
    cases deployed : f.deploy device a now with
    | error cause => rw [deployed] at mapped; cases mapped
    | ok both =>
      rw [deployed] at mapped
      cases mapped
      exact reached.deploy ready deployed
  | start key => exact settle_reached reached fun after started => reached.start started
  | pause key => exact settle_reached reached fun after paused => reached.pause paused
  | resume key => exact settle_reached reached fun after resumed => reached.resume resumed
  | stop key => exact settle_reached reached fun after stopped => reached.stop stopped
  | startAll => exact reached.startAll now
  | setInput key name value => exact settle_reached reached fun after set => reached.setInput set
  | setConnection device connection =>
    exact settle_reached reached fun after set => reached.setConnection set
  | tick host => exact reached.tick host now
  | takeFrame => exact reached.takeFrame

-- An instance after a change that may be refused.
def changed (change : Instance → Except EngineError Instance) (i : Instance) : Instance :=
  (change i).toOption.getD i

theorem instance?_changeInstance (change : Instance → Except EngineError Instance)
    (other : InstanceKey) :
    (f.settle (f.changeInstance key change)).instance? other =
      if other = key then (f.instance? key).map (changed change) else f.instance? other := by
  cases found : f.instance? key with
  | none =>
    have refused : f.settle (f.changeInstance key change) = f := by
      simp only [changeInstance, found]
      rfl
    rw [refused]
    split
    · rename_i same
      rw [same, found]
      rfl
    · rfl
  | some i =>
    cases made : change i with
    | error cause =>
      have refused : f.settle (f.changeInstance key change) = f := by
        simp only [changeInstance, found, made]
        rfl
      rw [refused]
      split
      · rename_i same
        rw [same, found]
        simp [changed, made, Except.toOption]
      · rfl
    | ok i' =>
      have replaced : f.settle (f.changeInstance key change) = f.replaceInstance key i' := by
        simp only [changeInstance, found, made]
        rfl
      rw [replaced, instance?_replaceInstance found]
      simp [changed, made, Except.toOption]

theorem instance?_changeRunState (verb : String) (change : Instance → Except EngineError Instance)
    (other : InstanceKey) :
    (f.settle (f.changeRunState key verb now change)).instance? other =
      if other = key then (f.instance? key).map (changed change) else f.instance? other := by
  rw [← instance?_changeInstance]
  unfold changeRunState
  cases f.changeInstance key change <;> rfl

theorem changed_changeRunState_automaton (now : Instant) (sources : List RunState)
    (target : RunState) (action : String) (i : Instance) :
    (changed (·.changeRunState now sources target action) i).automaton = i.automaton := by
  unfold changed Instance.changeRunState
  by_cases allowed : sources.contains i.runState
  · simp only [allowed, if_true]
    rfl
  · simp only [allowed]
    rfl

theorem changed_start_of_moving {i : Instance} (moving : i.runState ≠ .stopped) :
    changed (·.start now) i = i := by
  unfold changed Instance.start Instance.changeRunState
  simp [moving, Except.toOption]

theorem changed_start_moving (now : Instant) (i : Instance) :
    (changed (·.start now) i).runState ≠ .stopped := by
  unfold changed Instance.start Instance.changeRunState
  cases state : i.runState <;> simp [state, Except.toOption, Instance.publish]

theorem instance?_foldl_start (keys : List InstanceKey) (other : InstanceKey) :
    (keys.foldl (fun f key => f.settle (f.start key now)) f).instance? other =
      if other ∈ keys then (f.instance? other).map (changed (·.start now))
      else f.instance? other := by
  induction keys generalizing f with
  | nil => simp
  | cons key rest ih =>
    have first : (f.settle (f.start key now)).instance? other =
        if other = key then (f.instance? key).map (changed (·.start now)) else f.instance? other :=
      instance?_changeRunState "started" _ other
    rw [List.foldl_cons, ih, first]
    by_cases same : other = key
    · subst same
      simp [Function.comp_def, changed_start_of_moving (changed_start_moving now _)]
    · simp [same]

-- Starting all starts every instance that can be started.
theorem Laid.instance?_startAll (laid : Laid f) (now : Instant) (key : InstanceKey) :
    (f.startAll now).instance? key = (f.instance? key).map (changed (·.start now)) := by
  unfold Fleet.startAll
  refine (instance?_foldl_start _ key).trans ?_
  split
  · rfl
  · rename_i moving
    cases found : f.instance? key with
    | none => rfl
    | some i =>
      have same : i.key = key := (laid _ _ found).key_eq
      have runs : i.runState ≠ .stopped := by
        intro stopped
        refine moving (List.mem_map.mpr ⟨i, List.mem_filter.mpr ⟨?_, ?_⟩, same⟩)
        · exact Fleet.mem_instances.mpr ⟨key, found⟩
        · simp [stopped]
      rw [Option.map_some, changed_start_of_moving runs]

def connection? (f : Fleet) (device : String) : Option Connection :=
  (f.devices.get? device).map (·.connection)

theorem online_eq (f : Fleet) (device : String) :
    f.online device = (f.connection? device == some .connected) := by
  unfold online connection?
  cases f.devices.get? device <;> rfl

theorem connection?_replaceInstance (key : InstanceKey) (i : Instance) (device : String) :
    (f.replaceInstance key i).connection? device = f.connection? device := by
  unfold connection? replaceInstance
  by_cases same : device = key.device
  · rw [same, SortedMap.get?_adjust_self]
    cases f.devices.get? key.device <;> rfl
  · rw [SortedMap.get?_adjust_ne _ same]

theorem connection?_changeInstance (change : Instance → Except EngineError Instance)
    (device : String) :
    (f.settle (f.changeInstance key change)).connection? device = f.connection? device := by
  cases changed : f.changeInstance key change with
  | error cause => rfl
  | ok after =>
    obtain ⟨_, i, _, _, rfl⟩ := changeInstance_ok changed
    exact connection?_replaceInstance key i device

theorem connection?_changeRunState (verb : String)
    (change : Instance → Except EngineError Instance) (device : String) :
    (f.settle (f.changeRunState key verb now change)).connection? device =
      f.connection? device := by
  have bare := @connection?_changeInstance f key change device
  rw [← bare]
  unfold changeRunState
  cases f.changeInstance key change <;> rfl

theorem connection?_foldl {α : Type} {step : Fleet → α → Fleet} {device : String}
    (each : ∀ f a, (step f a).connection? device = f.connection? device) (items : List α) :
    (items.foldl step f).connection? device = f.connection? device := by
  induction items generalizing f with
  | nil => rfl
  | cons head rest ih => exact ih.trans (each f head)

theorem connection?_startAll (f : Fleet) (now : Instant) (device : String) :
    (f.startAll now).connection? device = f.connection? device :=
  connection?_foldl (fun _ _ => connection?_changeRunState "started" _ device) _

theorem connection?_stepped (host : Host) (device : String) :
    (f.stepped host now).connection? device = f.connection? device := by
  unfold connection? stepped
  rw [SortedMap.get?_map]
  cases f.devices.get? device with
  | none => rfl
  | some d =>
    show some (tickDevice host now d).1.connection = some d.connection
    unfold tickDevice
    split <;> rfl

theorem connection?_deliver (sender : InstanceKey) (channel : String) (value : Value)
    (receiver : InstanceKey) (device : String) :
    (deliver now sender channel value f receiver).connection? device = f.connection? device := by
  unfold deliver
  split
  · rfl
  · split
    · rfl
    · exact connection?_changeInstance _ device

theorem connection?_tick (f : Fleet) (host : Host) (now : Instant) (device : String) :
    (f.tick host now).1.connection? device = f.connection? device := by
  rw [tick_fleet, ← @connection?_stepped f now host device]
  refine connection?_foldl (fun f o => ?_) _
  refine connection?_foldl (fun f sent => ?_) _
  exact connection?_foldl (fun f receiver => connection?_deliver _ _ _ receiver device) _

theorem connection?_addDevice (device other : String) :
    (f.addDevice device).connection? other =
      if other = device ∧ f.connection? device = none then some .connected
      else f.connection? other := by
  unfold addDevice SortedMap.insertNew SortedMap.contains connection?
  cases found : f.devices.get? device with
  | some d => simp
  | none =>
    simp only [Option.isSome_none, Bool.false_eq_true, if_false, SortedMap.get?_insert]
    split <;> simp_all

theorem connection?_setConnection (device : String) (connection : Connection) (other : String) :
    (f.settle (f.setConnection device connection now)).connection? other =
      if other = device then (f.connection? device).map fun _ => connection
      else f.connection? other := by
  unfold setConnection settle
  cases found : f.devices.get? device with
  | none =>
    simp only [Except.toOption, Option.getD_none, connection?, found, Option.map_none]
    split <;> simp_all
  | some d =>
    by_cases same : d.connection = connection
    · simp only [same, if_true, Except.toOption, Option.getD_some, connection?, found]
      split <;> simp_all
    · simp only [same, if_false, Except.toOption, Option.getD_some, connection?, found, note,
        SortedMap.get?_insert]
      split <;> rfl

theorem instance?_settle_setConnection (device : String) (connection : Connection)
    (key : InstanceKey) :
    (f.settle (f.setConnection device connection now)).instance? key = f.instance? key := by
  cases set : f.setConnection device connection now with
  | error cause => rfl
  | ok after => exact instance?_setConnection set key

-- An automaton can be deployed once on each device that is known.
def Deployable (f : Fleet) (key : InstanceKey) : Prop :=
  (f.connection? key.device).isSome ∧ f.instance? key = none

theorem deploy_of_deployable {device : String} {a : Automaton}
    (free : Deployable f ⟨device, a.id⟩) :
    ∃ after, f.deploy device a now = .ok (after, ⟨device, a.id⟩) ∧
      ∀ other, after.connection? other = f.connection? other := by
  obtain ⟨known, absent⟩ := free
  obtain ⟨connection, there⟩ := Option.isSome_iff_exists.mp known
  obtain ⟨d, found, rfl⟩ := Option.map_eq_some_iff.mp there
  have fresh : d.instances.get? a.id = none := by
    have none : (f.devices.get? device).bind (fun d => d.instances.get? a.id) = none := absent
    simpa only [found, Option.bind_some] using none
  let deployed : Device := ⟨d.connection, d.instances.insert a.id (Instance.new device a now)⟩
  refine ⟨{ f with devices := f.devices.insert device deployed }, ?_, ?_⟩
  · have there : f.devices.get? device = some d := found
    simp only [deploy, there, SortedMap.contains, fresh, Option.isSome_none, Bool.false_eq_true,
      if_false]
    rfl
  · intro other
    unfold connection?
    rw [SortedMap.get?_insert]
    split
    · rename_i same
      rw [same, show f.devices.get? device = some d from found]
      rfl
    · rfl

theorem deploy_of_not_deployable {device : String} {a : Automaton}
    (taken : ¬ Deployable f ⟨device, a.id⟩) : ∃ cause, f.deploy device a now = .error cause := by
  unfold deploy
  cases found : f.devices.get? device with
  | none => exact ⟨_, rfl⟩
  | some d =>
    cases there : d.instances.get? a.id with
    | none =>
      refine absurd ⟨?_, ?_⟩ taken
      · simp [connection?, found]
      · simp [Fleet.instance?, found, there]
    | some i =>
      simp only [SortedMap.contains, there, Option.isSome_some, if_true]
      exact ⟨_, rfl⟩

end Chronomata.Fleet
