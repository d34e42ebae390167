import Chronomata.Fleet
import Chronomata.Proofs.Sorted.Map

-- A fleet by what can be asked of it: the instance under each key, and whether a device can be reached.
-- Every operation is told by how it changes these answers.
namespace Chronomata.Fleet

def online (f : Fleet) (device : String) : Bool :=
  (f.devices.get? device).any (·.connection == .connected)

variable {f after : Fleet}

theorem instance?_eq_some {key : InstanceKey} {i : Instance} :
    f.instance? key = some i ↔
      ∃ d, f.devices.get? key.device = some d ∧ d.instances.get? key.automaton = some i :=
  Option.bind_eq_some_iff

theorem instance?_note (event : Event) (key : InstanceKey) :
    (f.note event).instance? key = f.instance? key := rfl

theorem instance?_replaceInstance {key : InstanceKey} {before : Instance}
    (found : f.instance? key = some before) (i : Instance) (other : InstanceKey) :
    (f.replaceInstance key i).instance? other = if other = key then some i else f.instance? other := by
  obtain ⟨d, device, there⟩ := instance?_eq_some.mp found
  unfold Fleet.instance? replaceInstance
  by_cases sameDevice : other.device = key.device
  · rw [sameDevice, SortedMap.get?_adjust_self, device]
    simp only [Option.map_some, Option.bind_some]
    by_cases sameAutomaton : other.automaton = key.automaton
    · have same : other = key := by
        cases other
        cases key
        cases sameDevice
        cases sameAutomaton
        rfl
      rw [if_pos same, sameAutomaton, SortedMap.get?_adjust_self, there]
      rfl
    · rw [if_neg fun same => sameAutomaton (congrArg _ same),
        SortedMap.get?_adjust_ne _ sameAutomaton]
  · rw [if_neg fun same => sameDevice (congrArg _ same), SortedMap.get?_adjust_ne _ sameDevice]

theorem online_replaceInstance (key : InstanceKey) (i : Instance) (device : String) :
    (f.replaceInstance key i).online device = f.online device := by
  unfold online replaceInstance
  by_cases same : device = key.device
  · rw [same, SortedMap.get?_adjust_self]
    cases f.devices.get? key.device <;> rfl
  · rw [SortedMap.get?_adjust_ne _ same]

theorem changeInstance_ok {key : InstanceKey} {change : Instance → Except EngineError Instance}
    (changed : f.changeInstance key change = .ok after) :
    ∃ before i, f.instance? key = some before ∧ change before = .ok i ∧
      after = f.replaceInstance key i := by
  unfold changeInstance at changed
  cases found : f.instance? key with
  | none => rw [found] at changed; cases changed
  | some before =>
    rw [found] at changed
    cases made : change before with
    | error cause => simp only [made] at changed; cases changed
    | ok i =>
      simp only [made] at changed
      cases changed
      exact ⟨before, i, rfl, made, rfl⟩

theorem changeRunState_ok {key : InstanceKey} {verb : String} {now : Instant}
    {change : Instance → Except EngineError Instance}
    (changed : f.changeRunState key verb now change = .ok after) :
    ∃ before i, f.instance? key = some before ∧ change before = .ok i ∧
      after = (f.replaceInstance key i).note (.lifecycle key verb now) := by
  unfold changeRunState at changed
  cases made : f.changeInstance key change with
  | error cause => rw [made] at changed; cases changed
  | ok between =>
    rw [made] at changed
    cases changed
    obtain ⟨before, i, found, changed, rfl⟩ := changeInstance_ok made
    exact ⟨before, i, found, changed, rfl⟩

theorem instance?_addDevice (device : String) (key : InstanceKey) :
    (f.addDevice device).instance? key = f.instance? key := by
  unfold addDevice Fleet.instance?
  rw [SortedMap.get?_insertNew]
  split
  · cases f.devices.get? key.device <;> rfl
  · rfl

theorem deploy_ok {device : String} {a : Automaton} {now : Instant} {key : InstanceKey}
    (deployed : f.deploy device a now = .ok (after, key)) (other : InstanceKey) :
    after.instance? other =
      if other = ⟨device, a.id⟩ then some (Instance.new device a now) else f.instance? other := by
  unfold deploy at deployed
  split at deployed
  · cases deployed
  · rename_i d found
    split_ifs at deployed
    cases deployed
    unfold Fleet.instance?
    by_cases sameDevice : other.device = device
    · rw [sameDevice, SortedMap.get?_insert_self, found]
      simp only [Option.bind_some]
      by_cases sameAutomaton : other.automaton = a.id
      · have same : other = ⟨device, a.id⟩ := by
          cases other
          cases sameDevice
          cases sameAutomaton
          rfl
        rw [if_pos same, sameAutomaton, SortedMap.get?_insert_self]
      · rw [if_neg fun same => sameAutomaton (congrArg InstanceKey.automaton same),
          SortedMap.get?_insert_ne _ sameAutomaton]
    · rw [if_neg fun same => sameDevice (congrArg InstanceKey.device same),
        SortedMap.get?_insert_ne _ sameDevice]

theorem instance?_setConnection {device : String} {connection : Connection} {now : Instant}
    (set : f.setConnection device connection now = .ok after) (key : InstanceKey) :
    after.instance? key = f.instance? key := by
  unfold setConnection at set
  split at set
  · cases set
  · rename_i d found
    split_ifs at set
    · cases set
      rfl
    · cases set
      rw [instance?_note]
      unfold Fleet.instance?
      by_cases same : key.device = device
      · rw [same, SortedMap.get?_insert_self, found]
        rfl
      · rw [SortedMap.get?_insert_ne _ same]

end Chronomata.Fleet
