import Chronomata.Proofs.Fleet.Layout

-- The first half of a tick: every running instance that can be reached makes a tick of its own. What the
-- fleet is between the halves is told instance by instance.
namespace Chronomata.Fleet

variable {f : Fleet} {host : Host} {now : Instant} {key : InstanceKey} {i : Instance}

def steps (f : Fleet) (host : Host) (now : Instant) : List Step :=
  f.devices.values.flatMap fun d => (tickDevice host now d).2

def outcomes (f : Fleet) (host : Host) (now : Instant) : List Outcome :=
  (f.steps host now).filterMap (·.outcome)

-- The fleet when all have ticked and no message is out yet.
def stepped (f : Fleet) (host : Host) (now : Instant) : Fleet where
  devices := f.devices.map fun _ d => (tickDevice host now d).1
  communications := f.communications
  events := f.events ++ (f.steps host now).flatMap (·.events)

theorem steps_eq : (f.devices.map fun _ d => tickDevice host now d).values.flatMap (·.2) =
    f.steps host now := by
  rw [SortedMap.values_map]
  simp only [steps, SortedMap.values, List.flatMap_map]

theorem tick_fleet :
    (f.tick host now).1 = (f.outcomes host now).foldl (route now) (f.stepped host now) := by
  unfold tick stepped outcomes
  simp only [steps_eq, SortedMap.map_map]

theorem tick_calls :
    (f.tick host now).2.calls = (f.outcomes host now).flatMap fun o => o.report.calls := by
  unfold tick outcomes
  simp only [steps_eq]

theorem tick_ticked : (f.tick host now).2.ticked = (f.outcomes host now).map (·.key) := by
  unfold tick outcomes
  simp only [steps_eq]

theorem online_stepped (device : String) : (f.stepped host now).online device = f.online device := by
  unfold online stepped
  rw [SortedMap.get?_map]
  cases f.devices.get? device with
  | none => rfl
  | some d =>
    show ((tickDevice host now d).1.connection == .connected) = (d.connection == .connected)
    unfold tickDevice
    split <;> rfl

theorem instance?_stepped (key : InstanceKey) :
    (f.stepped host now).instance? key = (f.instance? key).map fun i =>
      if f.online key.device then (tickInstance host now i).after else i := by
  unfold Fleet.instance? stepped online
  rw [SortedMap.get?_map]
  cases f.devices.get? key.device with
  | none => rfl
  | some d =>
    show (tickDevice host now d).1.instances.get? key.automaton = _
    unfold tickDevice
    cases connection : d.connection <;>
      simp [connection, SortedMap.get?_map, Function.comp_def]

theorem tickInstance_of_tick {after : Instance} {report : Instance.TickReport}
    (ticked : i.tick host now = .ok (after, report)) :
    tickInstance host now i =
      ⟨after, some ⟨i.key, channelValues i.automaton report.emitted, report⟩, report.events⟩ := by
  simp only [tickInstance, Instance.tick_running ticked, ticked, ne_eq, not_true_eq_false, if_false]

theorem tickInstance_of_resting (resting : i.runState ≠ .running) :
    tickInstance host now i = ⟨i, none, []⟩ := if_pos resting

theorem tickInstance_automaton (host : Host) (now : Instant) (i : Instance) :
    (tickInstance host now i).after.automaton = i.automaton := by
  unfold tickInstance
  split
  · rfl
  · split
    · rename_i ticked
      exact (Instance.tick_kept ticked).2.1
    · rfl

theorem Placed.stepped (placed : Placed key i) (host : Host) (now : Instant) :
    Placed key (tickInstance host now i).after := by
  by_cases running : i.runState = .running
  · obtain ⟨after, report, ticked, kept⟩ := placed.tick running host now
    rw [tickInstance_of_tick ticked]
    exact kept
  · rw [tickInstance_of_resting running]
    exact placed

theorem Laid.stepped (laid : Laid f) (host : Host) (now : Instant) : Laid (f.stepped host now) := by
  intro key i there
  rw [instance?_stepped] at there
  obtain ⟨before, found, made⟩ := Option.map_eq_some_iff.mp there
  split at made
  · exact made ▸ (laid _ _ found).stepped host now
  · exact made ▸ laid _ _ found

-- An instance ticks when it runs on a device that can be reached.
def Ticks (f : Fleet) (key : InstanceKey) (i : Instance) : Prop :=
  f.online key.device ∧ f.instance? key = some i ∧ i.runState = .running

def reachable (f : Fleet) : List Instance := f.instances.filter fun i => f.online i.device

theorem Laid.mem_reachable (laid : Laid f) :
    i ∈ f.reachable ↔ f.instance? i.key = some i ∧ f.online i.key.device := by
  unfold reachable
  rw [List.mem_filter, laid.mem_instances]
  rfl

theorem Laid.reachable_inKeyOrder (laid : Laid f) : InKeyOrder (f.reachable.map (·.key)) :=
  laid.instances_inKeyOrder.sublist (List.Sublist.map _ List.filter_sublist)

theorem Laid.steps (laid : Laid f) (host : Host) (now : Instant) :
    f.steps host now = f.reachable.map (tickInstance host now) := by
  unfold Fleet.steps reachable instances SortedMap.values
  rw [List.filter_flatMap, List.map_flatMap, List.flatMap_map, List.flatMap_map]
  refine List.flatMap_congr ?_
  rintro ⟨device, d⟩ listed
  have there := SortedMap.mem_entries.mp listed
  have online : ∀ i ∈ d.instances.values, f.online i.device = (d.connection == .connected) := by
    intro i member
    obtain ⟨id, found⟩ := SortedMap.mem_values.mp member
    have placed := laid ⟨device, id⟩ i (instance?_eq_some.mpr ⟨d, there, found⟩)
    rw [show i.device = device from congrArg InstanceKey.device placed.key_eq, Fleet.online, there]
    rfl
  show (tickDevice host now d).2 = (d.instances.values.filter _).map _
  rw [List.filter_congr online]
  unfold tickDevice
  cases d.connection with
  | connected =>
    simp only [reduceCtorEq, if_false, SortedMap.values_map]
    simp [SortedMap.values, Function.comp_def]
  | disconnected => simp

theorem tickInstance_outcome {o : Outcome} :
    (tickInstance host now i).outcome = some o ↔
      ∃ after report, i.tick host now = .ok (after, report) ∧
        o = ⟨i.key, channelValues i.automaton report.emitted, report⟩ := by
  constructor
  · intro told
    unfold tickInstance at told
    split at told
    · cases told
    · split at told
      · rename_i after report ticked
        exact ⟨after, report, ticked, (Option.some.inj told).symm⟩
      · cases told
  · rintro ⟨after, report, ticked, rfl⟩
    rw [tickInstance_of_tick ticked]

theorem Laid.outcomes (laid : Laid f) (host : Host) (now : Instant) :
    f.outcomes host now = f.reachable.filterMap fun i => (tickInstance host now i).outcome := by
  unfold Fleet.outcomes
  rw [laid.steps, List.filterMap_map]
  rfl

theorem Laid.mem_outcomes (laid : Laid f) {o : Outcome} :
    o ∈ f.outcomes host now ↔ ∃ i after, f.Ticks o.key i ∧ i.tick host now = .ok (after, o.report) ∧
      o.sent = channelValues i.automaton o.report.emitted := by
  rw [laid.outcomes, List.mem_filterMap]
  constructor
  · rintro ⟨i, member, told⟩
    obtain ⟨after, report, ticked, rfl⟩ := tickInstance_outcome.mp told
    obtain ⟨found, online⟩ := laid.mem_reachable.mp member
    exact ⟨i, after, ⟨online, found, Instance.tick_running ticked⟩, ticked, rfl⟩
  · rintro ⟨i, after, ⟨online, found, _⟩, ticked, sent⟩
    obtain ⟨key, sends, report⟩ := o
    have same : i.key = key := (laid _ _ found).key_eq
    dsimp only at sent
    subst same sent
    exact ⟨i, laid.mem_reachable.mpr ⟨found, online⟩,
      tickInstance_outcome.mpr ⟨after, report, ticked, rfl⟩⟩

theorem Laid.ticks (laid : Laid f) (ticks : f.Ticks key i) (host : Host) (now : Instant) :
    ∃ after report, i.tick host now = .ok (after, report) := by
  obtain ⟨_, found, running⟩ := ticks
  obtain ⟨after, report, ticked, _⟩ := (laid _ _ found).tick running host now
  exact ⟨after, report, ticked⟩

theorem Laid.outcomes_inKeyOrder (laid : Laid f) (host : Host) (now : Instant) :
    InKeyOrder ((f.outcomes host now).map (·.key)) := by
  rw [laid.outcomes]
  refine List.pairwise_map.mpr (List.pairwise_filterMap.mpr ?_)
  refine (List.pairwise_map.mp laid.reachable_inKeyOrder).imp ?_
  intro i j before o told p told'
  obtain ⟨_, _, _, rfl⟩ := tickInstance_outcome.mp told
  obtain ⟨_, _, _, rfl⟩ := tickInstance_outcome.mp told'
  exact before

theorem Laid.mem_ticked (laid : Laid f) :
    key ∈ (f.tick host now).2.ticked ↔ ∃ i, f.Ticks key i := by
  rw [tick_ticked, List.mem_map]
  constructor
  · rintro ⟨o, member, rfl⟩
    obtain ⟨i, _, ticks, _⟩ := laid.mem_outcomes.mp member
    exact ⟨i, ticks⟩
  · rintro ⟨i, ticks⟩
    obtain ⟨after, report, ticked⟩ := laid.ticks ticks host now
    exact ⟨⟨key, channelValues i.automaton report.emitted, report⟩,
      laid.mem_outcomes.mpr ⟨i, after, ticks, ticked, rfl⟩, rfl⟩

-- Nothing but the events of the ticks is noted.
theorem Laid.stepped_events (laid : Laid f) (host : Host) (now : Instant) :
    (f.stepped host now).events =
      f.events ++ (f.outcomes host now).flatMap fun o => o.report.events := by
  show f.events ++ (f.steps host now).flatMap (·.events) = _
  rw [laid.outcomes, laid.steps, List.filterMap_eq_flatMap_toList, List.flatMap_map,
    List.flatMap_assoc]
  congr 1
  refine List.flatMap_congr ?_
  intro i member
  obtain ⟨found, _⟩ := laid.mem_reachable.mp member
  by_cases running : i.runState = .running
  · obtain ⟨after, report, ticked, _⟩ := (laid _ _ found).tick running host now
    simp [tickInstance_of_tick ticked]
  · simp [tickInstance_of_resting running]

end Chronomata.Fleet
