import Chronomata.Proofs.Fleet.Log

-- What a frame shows of a fleet: the snapshots of all instances that were deployed, in the order of their keys,
-- and for every device that was added a summary of those snapshots in the frame that are its own.
namespace Chronomata

namespace Health

variable {connection : Connection} {faulted : Nat}

theorem of_eq_offline : of connection faulted = .offline ↔ connection = .disconnected := by
  unfold of
  cases connection with
  | connected => split_ifs <;> simp
  | disconnected => simp

theorem of_eq_degraded :
    of connection faulted = .degraded ↔ connection = .connected ∧ faulted ≠ 0 := by
  unfold of
  cases connection with
  | connected => split_ifs with none <;> simp [none]
  | disconnected => simp

end Health

namespace DeviceSummary

-- Counts and cycles are words of 64 bits.
structure Sums (summary : DeviceSummary) (own : List ExecutionSnapshot) : Prop where
  instances : summary.instances = .ofNat own.length
  running : summary.running = .ofNat (own.countP fun s => s.runState = .running)
  faulted : summary.faulted = .ofNat (own.countP fun s => s.currentState = errorState)
  totalCycles : summary.totalCycles = .ofNat (own.map (·.cycle.toNat)).sum
  offline : summary.health = .offline ↔ summary.connection = .disconnected
  degraded : summary.health = .degraded ↔
    summary.connection = .connected ∧ ∃ s ∈ own, s.currentState = errorState

theorem of_sums (device : String) (connection : Connection) (own : List ExecutionSnapshot) :
    (of device connection own).Sums own where
  instances := rfl
  running := rfl
  faulted := rfl
  totalCycles := by
    show own.foldr (fun s total => s.cycle + total) 0 = _
    induction own with
    | nil => rfl
    | cons s rest ih =>
      rw [List.foldr_cons, ih, List.map_cons, List.sum_cons, UInt64.ofNat_add, UInt64.ofNat_toNat]
  offline := Health.of_eq_offline
  degraded := by
    refine Health.of_eq_degraded.trans (and_congr_right fun _ => ?_)
    rw [← Nat.pos_iff_ne_zero, List.countP_pos_iff]
    simp only [ExecutionSnapshot.isFaulted, beq_iff_eq]

end DeviceSummary

namespace Fleet

variable {f : Fleet}

theorem Laid.latest_key (laid : Laid f) {key : InstanceKey} {i : Instance}
    (found : f.instance? key = some i) : i.latest.key = key := by
  obtain ⟨same, _, _, sound⟩ := laid key i found
  exact sound.published.key.trans same

theorem Laid.mem_executions (laid : Laid f) {s : ExecutionSnapshot} :
    s ∈ f.takeFrame.2.executions ↔ ∃ i, f.instance? s.key = some i ∧ i.latest = s := by
  show s ∈ f.instances.map (·.latest) ↔ _
  rw [List.mem_map]
  constructor
  · rintro ⟨i, member, rfl⟩
    obtain ⟨key, found⟩ := Fleet.mem_instances.mp member
    rw [laid.latest_key found]
    exact ⟨i, found, rfl⟩
  · rintro ⟨i, found, same⟩
    exact ⟨i, Fleet.mem_instances.mpr ⟨_, found⟩, same⟩

theorem Laid.mem_keys (laid : Laid f) {key : InstanceKey} :
    key ∈ f.takeFrame.2.executions.map (·.key) ↔ (f.instance? key).isSome := by
  rw [List.mem_map, Option.isSome_iff_exists]
  constructor
  · rintro ⟨s, member, rfl⟩
    obtain ⟨i, found, _⟩ := laid.mem_executions.mp member
    exact ⟨i, found⟩
  · rintro ⟨i, found⟩
    have same := laid.latest_key found
    exact ⟨i.latest, laid.mem_executions.mpr ⟨i, same.symm ▸ found, rfl⟩, same⟩

theorem Laid.executions_inKeyOrder (laid : Laid f) :
    InKeyOrder (f.takeFrame.2.executions.map (·.key)) := by
  have keys : f.takeFrame.2.executions.map (·.key) = f.instances.map (·.key) := by
    show (f.instances.map (·.latest)).map (·.key) = _
    rw [List.map_map]
    refine List.map_congr_left ?_
    intro i member
    exact laid.latest_key (laid.mem_instances.mp member)
  rw [keys]
  exact laid.instances_inKeyOrder

-- The snapshots of one device stand together in the frame, as they stand on the device.
theorem Laid.own_executions (laid : Laid f) {device : String} {d : Device}
    (found : f.devices.get? device = some d) :
    f.takeFrame.2.executions.filter (fun s => s.key.device == device) =
      d.instances.values.map (·.latest) := by
  have sublist : (d.instances.values.map (·.latest)).Sublist f.takeFrame.2.executions := by
    have member : d.instances.values ∈ f.devices.values.map (·.instances.values) :=
      List.mem_map_of_mem (SortedMap.mem_values.mpr ⟨device, found⟩)
    refine List.Sublist.map _ ?_
    rw [Fleet.instances, List.flatMap_def]
    exact List.sublist_flatten_of_mem member
  have increasing := List.pairwise_map.mp laid.executions_inKeyOrder
  refine eq_of_increasing (·.key) (increasing.sublist List.filter_sublist) (increasing.sublist sublist) ?_
  intro s
  rw [List.mem_filter, beq_iff_eq, List.mem_map]
  constructor
  · rintro ⟨member, rfl⟩
    obtain ⟨i, there, same⟩ := laid.mem_executions.mp member
    obtain ⟨d', found', placed⟩ := instance?_eq_some.mp there
    cases found.symm.trans found'
    exact ⟨i, SortedMap.mem_values.mpr ⟨_, placed⟩, same⟩
  · rintro ⟨i, member, rfl⟩
    refine ⟨sublist.subset (List.mem_map_of_mem member), ?_⟩
    obtain ⟨automaton, placed⟩ := SortedMap.mem_values.mp member
    have there : f.instance? ⟨device, automaton⟩ = some i := instance?_eq_some.mpr ⟨d, found, placed⟩
    exact congrArg InstanceKey.device (laid.latest_key there)

theorem Laid.devices_eq (laid : Laid f) :
    f.takeFrame.2.devices = f.devices.entries.map fun e =>
      .of e.1 e.2.connection (f.takeFrame.2.executions.filter fun s => s.key.device == e.1) := by
  refine List.map_congr_left ?_
  rintro ⟨device, d⟩ listed
  rw [laid.own_executions (SortedMap.mem_entries.mp listed)]

theorem Laid.mem_devices (laid : Laid f) {summary : DeviceSummary}
    (member : summary ∈ f.takeFrame.2.devices) :
    f.connection? summary.device = some summary.connection ∧
      summary.Sums (f.takeFrame.2.executions.filter fun s => s.key.device == summary.device) := by
  rw [laid.devices_eq] at member
  obtain ⟨⟨device, d⟩, listed, rfl⟩ := List.mem_map.mp member
  refine ⟨?_, DeviceSummary.of_sums device d.connection _⟩
  exact congrArg (Option.map (·.connection)) (SortedMap.mem_entries.mp listed)

theorem devices_names (f : Fleet) : f.takeFrame.2.devices.map (·.device) = f.devices.keys := by
  show (f.devices.entries.map _).map _ = f.devices.entries.map _
  rw [List.map_map]
  rfl

theorem mem_deviceNames {device : String} :
    device ∈ f.devices.keys ↔ (f.connection? device).isSome := by
  rw [SortedMap.mem_keys, connection?, Option.isSome_map, Option.isSome_iff_exists]

-- The key that an operation deploys an instance under.
def deploys? (f : Fleet) (e : Entry) : Option InstanceKey :=
  match e.operation with
  | .deploy device a _ => (f.deploy device a e.now).toOption.map (·.2)
  | _ => none

def deployments (f : Fleet) (entries : List Entry) : List InstanceKey := f.along deploys? entries

variable {now : Instant} {key : InstanceKey}

theorem changed_isSome (other : InstanceKey) (change : Instance → Instance) :
    (if key = other then (f.instance? other).map change else f.instance? key).isSome =
      (f.instance? key).isSome := by
  split_ifs with same
  · rw [same, Option.isSome_map]
  · rfl

-- Only deploying makes an instance, and nothing takes one away.
theorem perform_isSome (laid : Laid f) {operation : Operation}
    (other : ∀ device a ready, operation ≠ .deploy device a ready) :
    ((f.perform now operation).instance? key).isSome = (f.instance? key).isSome := by
  cases operation with
  | addDevice device => exact congrArg Option.isSome (instance?_addDevice device key)
  | deploy device a ready => exact absurd rfl (other device a ready)
  | start place =>
    exact (congrArg _ (instance?_changeRunState "started" _ key)).trans (changed_isSome place _)
  | pause place =>
    exact (congrArg _ (instance?_changeRunState "paused" _ key)).trans (changed_isSome place _)
  | resume place =>
    exact (congrArg _ (instance?_changeRunState "resumed" _ key)).trans (changed_isSome place _)
  | stop place =>
    exact (congrArg _ (instance?_changeRunState "stopped" _ key)).trans (changed_isSome place _)
  | startAll => exact (congrArg _ (laid.instance?_startAll now key)).trans Option.isSome_map
  | setInput place name value =>
    exact (congrArg _ (instance?_changeInstance _ key)).trans (changed_isSome place _)
  | setConnection device connection =>
    exact congrArg _ (instance?_settle_setConnection device connection key)
  | tick host =>
    refine (congrArg _ (laid.after host now key)).trans ?_
    rw [Option.isSome_map, instance?_stepped, Option.isSome_map]
  | takeFrame => rfl

theorem deploy_isSome {device : String} {a : Automaton} (ready : a.Ready) :
    ((f.perform now (.deploy device a ready)).instance? key).isSome ↔
      (f.instance? key).isSome ∨ f.deploys? ⟨.deploy device a ready, now⟩ = some key := by
  by_cases free : f.Deployable ⟨device, a.id⟩
  · obtain ⟨after, deployed, _⟩ := @deploy_of_deployable f now device a free
    have there := deploy_ok deployed key
    simp only [perform, deploys?, deployed]
    show (after.instance? key).isSome ↔ _ ∨ some _ = _
    rw [there]
    split_ifs with same
    · simp [same]
    · simp [Ne.symm same]
  · obtain ⟨cause, refused⟩ := @deploy_of_not_deployable f now device a free
    simp only [perform, deploys?, refused]
    show (f.instance? key).isSome ↔ _ ∨ none = _
    simp

theorem perform_instance? (laid : Laid f) (operation : Operation) :
    ((f.perform now operation).instance? key).isSome ↔
      (f.instance? key).isSome ∨ f.deploys? ⟨operation, now⟩ = some key := by
  by_cases deploys : ∃ device a ready, operation = .deploy device a ready
  · obtain ⟨device, a, ready, rfl⟩ := deploys
    exact deploy_isSome ready
  · have other : ∀ device a ready, operation ≠ .deploy device a ready :=
      fun device a ready same => deploys ⟨device, a, ready, same⟩
    have quiet : f.deploys? ⟨operation, now⟩ = none := by
      unfold deploys?
      split
      · rename_i same
        exact absurd same (other _ _ _)
      · rfl
    rw [perform_isSome laid other, quiet]
    simp

theorem run_reached (reached : Reached f) (entries : List Entry) : Reached (f.run entries) := by
  induction entries generalizing f with
  | nil => exact reached
  | cons e rest ih => exact ih (perform_reached reached e.operation e.now)

theorem run_instance? (reached : Reached f) (entries : List Entry) :
    ((f.run entries).instance? key).isSome ↔
      (f.instance? key).isSome ∨ key ∈ f.deployments entries := by
  induction entries generalizing f with
  | nil => simp [run, deployments, along]
  | cons e rest ih =>
    refine (ih (perform_reached reached e.operation e.now)).trans ?_
    rw [perform_instance? (reached_laid reached), or_assoc]
    simp only [deployments, along, List.mem_append, Option.mem_toList]

theorem perform_connection? (operation : Operation) {device : String} :
    ((f.perform now operation).connection? device).isSome ↔
      (f.connection? device).isSome ∨ operation = .addDevice device := by
  cases operation with
  | addDevice other =>
    show ((f.addDevice other).connection? device).isSome ↔ _
    rw [connection?_addDevice]
    by_cases same : device = other
    · subst same
      cases f.connection? device <;> simp
    · simp [same, Ne.symm same]
  | deploy place a ready =>
    by_cases free : f.Deployable ⟨place, a.id⟩
    · obtain ⟨after, deployed, kept⟩ := @deploy_of_deployable f now place a free
      simp only [perform, deployed]
      show (after.connection? device).isSome ↔ _
      simp [kept]
    · obtain ⟨cause, refused⟩ := @deploy_of_not_deployable f now place a free
      simp only [perform, refused]
      show (f.connection? device).isSome ↔ _
      simp
  | start key => simp [perform, start, connection?_changeRunState]
  | pause key => simp [perform, pause, connection?_changeRunState]
  | resume key => simp [perform, resume, connection?_changeRunState]
  | stop key => simp [perform, stop, connection?_changeRunState]
  | startAll => simp [perform, connection?_startAll]
  | setInput key name value => simp [perform, setInput, connection?_changeInstance]
  | setConnection other connection =>
    show ((f.settle (f.setConnection other connection now)).connection? device).isSome ↔ _
    rw [connection?_setConnection]
    split_ifs with same <;> simp [same]
  | tick host => simp [perform, connection?_tick]
  | takeFrame => simp [perform, takeFrame, connection?]

theorem run_connection? (f : Fleet) (entries : List Entry) {device : String} :
    ((f.run entries).connection? device).isSome ↔
      (f.connection? device).isSome ∨ ∃ e ∈ entries, e.operation = .addDevice device := by
  induction entries generalizing f with
  | nil => simp [run]
  | cons e rest ih =>
    refine (ih (f.perform e.now e.operation)).trans ?_
    rw [perform_connection?, or_assoc]
    simp only [List.exists_mem_cons_iff]

-- Whenever a frame is taken, it shows the snapshot that each instance published last, once for every instance
-- that was deployed and in the order of the keys, and it shows every device that was added, in the order of the
-- names. What it says of a device is what its own snapshots of that device add up to. The frame after it, when
-- nothing was done in between, differs from it only in that nothing has happened.
theorem framed_exact (entries : List Entry) :
    (∀ s, s ∈ (empty.run entries).takeFrame.2.executions ↔
      ∃ i, (empty.run entries).instance? s.key = some i ∧ i.latest = s) ∧
    InKeyOrder ((empty.run entries).takeFrame.2.executions.map (·.key)) ∧
    (∀ key, key ∈ (empty.run entries).takeFrame.2.executions.map (·.key) ↔
      key ∈ empty.deployments entries) ∧
    ((empty.run entries).takeFrame.2.devices.map (·.device)).Pairwise
      (fun device other => compare device other = .lt) ∧
    (∀ device, device ∈ (empty.run entries).takeFrame.2.devices.map (·.device) ↔
      ∃ e ∈ entries, e.operation = .addDevice device) ∧
    (∀ summary ∈ (empty.run entries).takeFrame.2.devices,
      (empty.run entries).connection? summary.device = some summary.connection ∧
        summary.Sums ((empty.run entries).takeFrame.2.executions.filter fun s =>
          s.key.device == summary.device)) ∧
    (empty.run entries).takeFrame.1.takeFrame.2 =
      { (empty.run entries).takeFrame.2 with communications := [], events := [] } := by
  have laid : Laid (empty.run entries) := reached_laid (run_reached .empty entries)
  refine ⟨fun s => laid.mem_executions, laid.executions_inKeyOrder, ?_, ?_, ?_,
    fun summary member => laid.mem_devices member, rfl⟩
  · intro key
    rw [laid.mem_keys, run_instance? .empty]
    exact or_iff_right Bool.false_ne_true
  · rw [devices_names]
    exact List.pairwise_map.mpr (empty.run entries).devices.increasing
  · intro device
    rw [devices_names, mem_deviceNames, run_connection?]
    exact or_iff_right Bool.false_ne_true

-- Three devices that are added out of order. The alarm fails on the first one, beside a bell; the second one is
-- lost, and nothing was deployed on the third.
namespace Alarming

open Ringing

theorem failing_ready : (alarm "fail").Ready := alarm_ready.1

def crew : List Entry :=
  [.addDevice "b", .addDevice "c", .addDevice "a", .deploy "b" door door_ready,
    .deploy "a" bell bell_ready, .deploy "a" (alarm "fail") failing_ready, .deploy "d" bell bell_ready,
    .startAll, .tick alarmer, .setConnection "b" .disconnected].map (⟨·, .epoch⟩)

end Alarming

open Alarming in
theorem framed_exact_alarming :
    (empty.run crew).takeFrame.2.executions.map (·.key) = [place, ⟨"a", "bell"⟩, ⟨"b", "door"⟩] ∧
      (empty.run crew).takeFrame.2.devices.map (fun s => (s.device, s.health)) =
        [("a", .degraded), ("b", .offline), ("c", .healthy)] ∧
      "c" ∈ (empty.run crew).takeFrame.2.devices.map (·.device) ∧
      place ∈ empty.deployments crew ∧ ⟨"d", "bell"⟩ ∉ empty.deployments crew ∧
      (∀ summary ∈ (empty.run crew).takeFrame.2.devices, summary.device = "a" →
        summary.instances = 2 ∧ summary.faulted = 1) ∧
      (empty.run crew).takeFrame.1.takeFrame.2.executions.length = 3 := by
  obtain ⟨_, _, deployed, _, added, sums, again⟩ := framed_exact crew
  have keys : (empty.run crew).takeFrame.2.executions.map (·.key) =
      [place, ⟨"a", "bell"⟩, ⟨"b", "door"⟩] := by decide +kernel
  rw [keys] at deployed
  refine ⟨keys, by decide +kernel, (added "c").mpr ⟨_, List.mem_cons_of_mem _ List.mem_cons_self, rfl⟩,
    (deployed _).mp (by decide), mt (deployed _).mpr (by decide), ?_, ?_⟩
  · intro summary member own
    have total := (sums summary member).2
    rw [own] at total
    exact ⟨total.instances.trans (by decide +kernel), total.faulted.trans (by decide +kernel)⟩
  · rw [again]
    decide +kernel

end Fleet

end Chronomata
