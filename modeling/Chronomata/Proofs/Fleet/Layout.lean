import Chronomata.Proofs.Fleet.View
import Chronomata.Proofs.Instance.Runs

-- How instances stand in a fleet: each under its own key, and each in a state that it can be in. So the
-- list of all instances is in the order of their keys.
namespace Chronomata.Fleet

open Instance

structure Placed (key : InstanceKey) (i : Instance) : Prop where
  key_eq : i.key = key
  wellFormed : i.automaton.WellFormed
  sound : ∃ failed, Sound i.automaton i failed

def Laid (f : Fleet) : Prop := ∀ key i, f.instance? key = some i → Placed key i

variable {f after : Fleet} {key : InstanceKey} {i : Instance}

theorem new_placed {a : Automaton} (wellFormed : a.WellFormed) (device : String) (now : Instant) :
    Placed ⟨device, a.id⟩ (Instance.new device a now) :=
  ⟨rfl, wellFormed, False, new_sound wellFormed device now⟩

theorem Placed.changeRunState (placed : Placed key i) {now : Instant} {sources : List RunState}
    {target : RunState} {action : String} {i' : Instance}
    (changed : i.changeRunState now sources target action = .ok i') : Placed key i' := by
  obtain ⟨failed, sound⟩ := placed.sound
  have kept := changeRunState_sound sound changed
  unfold Instance.changeRunState at changed
  split_ifs at changed
  cases changed
  exact ⟨placed.key_eq, placed.wellFormed, failed, kept⟩

theorem Placed.setInput (placed : Placed key i) (name : String) (value : Value) :
    Placed key (i.setInput name value) := by
  obtain ⟨failed, sound⟩ := placed.sound
  exact ⟨placed.key_eq, placed.wellFormed, failed, setInput_sound sound name value⟩

theorem Placed.tick (placed : Placed key i) (running : i.runState = .running) (host : Host)
    (now : Instant) : ∃ i' report, i.tick host now = .ok (i', report) ∧ Placed key i' := by
  obtain ⟨failed, sound⟩ := placed.sound
  obtain ⟨i', report, ticked, kept, _⟩ := tick_sound placed.wellFormed sound running host now
  have same : i'.automaton = i.automaton := kept.automaton
  exact ⟨i', report, ticked, (tick_kept ticked).1.trans placed.key_eq, same ▸ placed.wellFormed, _,
    same ▸ kept⟩

theorem Laid.replaceInstance (laid : Laid f) {before : Instance}
    (found : f.instance? key = some before) (placed : Placed key i) :
    Laid (f.replaceInstance key i) := by
  intro other i' there
  rw [instance?_replaceInstance found] at there
  split_ifs at there with same
  · cases there
    exact same ▸ placed
  · exact laid _ _ there

theorem Laid.changeRunState (laid : Laid f) {verb : String} {now : Instant}
    {sources : List RunState} {target : RunState} {action : String}
    (changed : f.changeRunState key verb now
      (fun i => i.changeRunState now sources target action) = .ok after) : Laid after := by
  obtain ⟨before, i', found, made, rfl⟩ := changeRunState_ok changed
  exact laid.replaceInstance found ((laid _ _ found).changeRunState made)

theorem Laid.setInput (laid : Laid f) {name : String} {value : Value}
    (set : f.setInput key name value = .ok after) : Laid after := by
  obtain ⟨before, _, found, made, rfl⟩ := changeInstance_ok set
  cases made
  exact laid.replaceInstance found ((laid _ _ found).setInput name value)

theorem Laid.startAll (laid : Laid f) (now : Instant) : Laid (f.startAll now) := by
  unfold Fleet.startAll
  generalize (f.instances.filter (·.runState == .stopped)).map (·.key) = keys
  induction keys generalizing f with
  | nil => exact laid
  | cons key rest ih =>
    rw [List.foldl_cons]
    refine ih ?_
    cases started : f.start key now with
    | error cause => exact laid
    | ok after => exact laid.changeRunState started

theorem mem_instances : i ∈ f.instances ↔ ∃ key, f.instance? key = some i := by
  unfold Fleet.instances Fleet.instance?
  simp only [List.mem_flatMap, SortedMap.mem_values, Option.bind_eq_some_iff]
  constructor
  · rintro ⟨d, ⟨device, found⟩, automaton, there⟩
    exact ⟨⟨device, automaton⟩, d, found, there⟩
  · rintro ⟨key, d, found, there⟩
    exact ⟨d, ⟨key.device, found⟩, key.automaton, there⟩

theorem Laid.mem_instances (laid : Laid f) : i ∈ f.instances ↔ f.instance? i.key = some i := by
  rw [Fleet.mem_instances]
  refine ⟨?_, fun found => ⟨_, found⟩⟩
  rintro ⟨key, found⟩
  rwa [(laid _ _ found).key_eq]

-- Keys strictly increase.
abbrev InKeyOrder (keys : List InstanceKey) : Prop := keys.Pairwise fun k l => compare k l = .lt

theorem lt_of_device {d d' : String} (before : compare d d' = .lt) (a a' : String) :
    compare (⟨d, a⟩ : InstanceKey) ⟨d', a'⟩ = .lt := by
  show (compare d d').then (compare a a') = .lt
  rw [before]
  rfl

theorem lt_of_automaton (d : String) {a a' : String} (before : compare a a' = .lt) :
    compare (⟨d, a⟩ : InstanceKey) ⟨d, a'⟩ = .lt := by
  show (compare d d).then (compare a a') = .lt
  rw [Std.ReflOrd.compare_self]
  exact before

theorem Laid.instances_inKeyOrder (laid : Laid f) : InKeyOrder (f.instances.map (·.key)) := by
  have keyed : ∀ {device d i}, (device, d) ∈ f.devices.entries →
      ∀ {id}, (id, i) ∈ d.instances.entries → i.key = ⟨device, id⟩ := by
    intro device d i listed id there
    refine (laid _ _ (instance?_eq_some.mpr ⟨d, ?_, ?_⟩)).key_eq
    · exact SortedMap.mem_entries.mp listed
    · exact SortedMap.mem_entries.mp there
  refine List.pairwise_map.mpr (List.pairwise_flatMap.mpr ⟨?_, ?_⟩)
  · intro d member
    obtain ⟨⟨device, d⟩, listed, rfl⟩ := List.mem_map.mp member
    refine List.pairwise_map.mpr (List.Pairwise.imp_of_mem ?_ d.instances.increasing)
    rintro ⟨id, i⟩ ⟨id', i'⟩ there there' before
    rw [keyed listed there, keyed listed there']
    exact lt_of_automaton device before
  · refine List.pairwise_map.mpr (List.Pairwise.imp_of_mem ?_ f.devices.increasing)
    rintro ⟨device, d⟩ ⟨device', d'⟩ listed listed' before i member i' member'
    obtain ⟨⟨id, _⟩, there, rfl⟩ := List.mem_map.mp member
    obtain ⟨⟨id', _⟩, there', rfl⟩ := List.mem_map.mp member'
    rw [keyed listed there, keyed listed' there']
    exact lt_of_device before id id'

end Chronomata.Fleet
