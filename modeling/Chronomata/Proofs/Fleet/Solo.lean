import Mathlib.Data.List.Basic
import Chronomata.Proofs.Fleet.View
import Chronomata.Proofs.Instance.Runs

-- A fleet of one instance. The instance has no one to send a message to, so a tick of the fleet is a tick
-- of the instance.
namespace Chronomata.Fleet

-- One device, and one instance on it.
def solo (i : Instance) (communications : List Communication) (events : List Event) : Fleet :=
  ⟨.single i.device ⟨.connected, .single i.automaton.id i⟩, communications, events⟩

variable {i i' : Instance} {communications : List Communication} {events : List Event}
  {host : Host} {now : Instant}

theorem instance?_solo : (solo i communications events).instance? i.key = some i := by
  show ((SortedMap.single i.device _).get? i.device).bind _ = _
  rw [SortedMap.get?_single]
  exact SortedMap.get?_single _ _

theorem deploy_solo (device : String) (a : Automaton) (now : Instant) :
    (empty.addDevice device).deploy device a now =
      .ok (solo (Instance.new device a now) [] [], ⟨device, a.id⟩) := by
  have added : (empty.addDevice device).devices =
      SortedMap.single device ⟨.connected, SortedMap.empty⟩ := rfl
  unfold deploy
  rw [added, SortedMap.get?_single]
  show Except.ok (Fleet.mk ((SortedMap.single device _).insert device _) [] [], _) = _
  rw [SortedMap.insert_single]
  rfl

theorem replaceInstance_solo (same : i'.key = i.key) :
    (solo i communications events).replaceInstance i.key i' = solo i' communications events := by
  obtain ⟨device, automaton⟩ := InstanceKey.mk.inj same
  unfold replaceInstance solo
  simp only [Instance.key, SortedMap.adjust_single, device, automaton]

theorem start_solo (started : i.start now = .ok i') :
    (solo i communications events).start i.key now =
      .ok (solo i' communications (events ++ [.lifecycle i.key "started" now])) := by
  have same : i'.key = i.key := by
    unfold Instance.start Instance.changeRunState at started
    split_ifs at started
    cases started
    rfl
  unfold start changeRunState changeInstance
  rw [instance?_solo]
  simp only [started, Except.map, replaceInstance_solo same]
  rfl

theorem receivers_solo (channel : String) :
    (solo i communications events).receivers i.key channel = [] := by
  have alone : (solo i communications events).instances = [i] := rfl
  unfold receivers
  rw [alone]
  simp

theorem route_solo (o : Outcome) (own : o.key = i.key) :
    route now (solo i communications events) o = solo i communications events := by
  refine List.foldl_fixed' ?_ o.sent.entries
  intro sent
  rw [routeValue, own, receivers_solo]
  rfl

theorem tick_solo {report : Instance.TickReport} (ticked : i.tick host now = .ok (i', report)) :
    ((solo i communications events).tick host now).1 =
      solo i' communications (events ++ report.events) := by
  have same : i'.key = i.key := (Instance.tick_kept ticked).1
  obtain ⟨device, automaton⟩ := InstanceKey.mk.inj same
  have stepped : tickInstance host now i = ⟨i', some ⟨i.key,
      channelValues i.automaton report.emitted, report⟩, report.events⟩ := by
    simp [tickInstance, Instance.tick_running ticked, ticked]
  show ([tickInstance host now i].filterMap (·.outcome)).foldl (route now)
    ⟨.single i.device ⟨.connected, .single i.automaton.id (tickInstance host now i).after⟩,
      communications, events ++ [tickInstance host now i].flatMap (·.events)⟩ = _
  rw [stepped, ← device, ← automaton, List.flatMap_singleton]
  exact route_solo _ same.symm

-- What there is to capture is the one instance.
theorem takeFrame_solo : ∃ content,
    (solo i communications events).takeFrame = (solo i [] [], content) ∧
      content.executions = [i.latest] :=
  ⟨_, rfl, rfl⟩

end Chronomata.Fleet
