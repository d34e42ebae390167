import Chronomata.Proofs.Station.RunStates

-- What a station publishes of its instances. Whatever is done in one go, no instance disappears, and none goes
-- back to an earlier cycle: what was seen of the instances before is behind what there is to see now.
namespace Chronomata

-- No instance is in an earlier cycle in what was seen later than in what was seen first.
def Precedes (first later : List ExecutionSnapshot) : Prop :=
  ∀ e ∈ first, ∀ e' ∈ later, e.key = e'.key → e.cycle ≤ e'.cycle

instance : DecidableRel Precedes := fun first later =>
  inferInstanceAs (Decidable (∀ e ∈ first, ∀ e' ∈ later, e.key = e'.key → e.cycle ≤ e'.cycle))

namespace Station

variable {s after : Station} {now : Instant} {key : InstanceKey}

-- What can become of the instance under a key: it comes to be in its first cycle, and goes on by one cycle at
-- most.
inductive Goes (key : InstanceKey) : Option Instance → Option Instance → Prop where
  | absent : Goes key none none
  | created {i : Instance} (filed : i.key = key) (published : i.Published) (first : i.cycle = 0) :
      Goes key none (some i)
  | on {i i' : Instance} (filed : i'.key = i.key) (published : i.Published → i'.Published)
      (cycle : i'.cycle = i.cycle ∨ i'.cycle = i.cycle + 1) : Goes key (some i) (some i')

theorem Goes.rest (key : InstanceKey) (found : Option Instance) : Goes key found found := by
  cases found with
  | none => exact .absent
  | some i => exact .on rfl (fun published => published) (.inl rfl)

def Onward (s after : Station) : Prop := ∀ key, Goes key (s.instances.get? key) (after.instances.get? key)

theorem Onward.of_instances (same : after.instances = s.instances) : Onward s after := by
  intro key
  rw [same]
  exact .rest key _

theorem Onward.of_insert {i : Instance} (goes : Goes i.key (s.instances.get? i.key) (some i))
    (stored : after.instances = s.instances.insert i.key i) : Onward s after := by
  intro other
  rw [stored, SortedMap.get?_insert]
  split
  · rename_i same
    exact same ▸ goes
  · exact .rest other _

theorem Driven.goes {host : Host} {i i' : Instance} (driven : Driven host now i i') :
    Goes key (some i) (some i') := by
  have fed : ∀ inputs, (i.setInputs inputs).cycle = i.cycle := by
    intro inputs
    rw [Instance.setInputs_eq]
  have kept := driven.kept.1
  refine .on kept ?_ ?_
  · intro published
    cases driven with
    | fed inputs =>
      rw [Instance.setInputs_eq]
      exact published.withInputs _
    | ticked ticked => exact .of_snapshot (Instance.tick_counts ticked).2
  · cases driven with
    | fed inputs => exact .inl (fed inputs)
    | @ticked inputs _ _ ticked => exact fed inputs ▸ (Instance.tick_counts ticked).1

theorem drive_onward (filed : s.Filed) (key : InstanceKey) (now : Instant) :
    Onward s (s.drive key now) := by
  rcases drive_instances s key now with still | ⟨i, i', found, driven, stored⟩
  · exact .of_instances still
  · refine .of_insert ?_ stored
    rw [driven.kept.1, filed key i found, found]
    exact driven.goes

-- What can become of an instance that does not tick. Unlike going on by one cycle, this can be done again.
inductive Rests : Option Instance → Option Instance → Prop where
  | absent : Rests none none
  | on {i i' : Instance} (filed : i'.key = i.key) (published : i.Published → i'.Published)
      (cycle : i'.cycle = i.cycle) : Rests (some i) (some i')

theorem Rests.refl (found : Option Instance) : Rests found found := by
  cases found with
  | none => exact .absent
  | some i => exact .on rfl (fun published => published) rfl

theorem Rests.trans {first middle last : Option Instance} (earlier : Rests first middle)
    (later : Rests middle last) : Rests first last := by
  cases earlier with
  | absent => exact later
  | on filed published cycle =>
    cases later with
    | on filed' published' cycle' =>
      exact .on (filed'.trans filed) (fun shown => published' (published shown)) (cycle'.trans cycle)

theorem Rests.goes {found found' : Option Instance} (rests : Rests found found') : Goes key found found' := by
  cases rests with
  | absent => exact .absent
  | on filed published cycle => exact .on filed published (.inl cycle)

theorem changeRunState_rests (i : Instance) (sources : List RunState) (target : RunState)
    (action : String) :
    Rests (some i) (some ((i.changeRunState now sources target action).toOption.getD i)) := by
  unfold Instance.changeRunState
  split
  · exact .on rfl (fun _ => .of_snapshot rfl) rfl
  · exact .refl _

theorem command_rests {sources : List RunState} {target : RunState} {action : String}
    (other : InstanceKey) : Rests (s.instances.get? other)
      ((s.orStay (s.command key (·.changeRunState now sources target action))).instances.get? other) := by
  rw [command_get?]
  split
  · rename_i same
    rw [same]
    cases s.instances.get? key with
    | none => exact .absent
    | some i => exact changeRunState_rests i sources target action
  · exact .refl _

-- Every instance is stopped in the cycle that it is in.
theorem foldl_retire_rests (now : Instant) (keys : List InstanceKey) (s : Station) (other : InstanceKey) :
    Rests (s.instances.get? other) ((keys.foldl (retire now) s).instances.get? other) := by
  induction keys generalizing s with
  | nil => exact .refl _
  | cons key rest ih =>
    have first : Rests (s.instances.get? other) ((retire now s key).instances.get? other) :=
      command_rests other
    exact first.trans (ih (retire now s key))

theorem shutdown_onward (s : Station) (now : Instant) : Onward s (s.shutdown now) := by
  intro key
  let still := { s.stopPlayback with captureTimers := SortedMap.empty, tickTimers := SortedMap.empty }
  have rests : Rests (s.stopPlayback.instances.get? key) ((s.shutdown now).instances.get? key) :=
    foldl_retire_rests now still.instances.keys still key
  rw [stopPlayback_instances] at rests
  exact rests.goes

-- Time that passes lets timers go off, and a capture is made in steps: both are turns of many tasks.
def Operation.isPrompt : Operation → Bool
  | .advance _ | .capture _ => false
  | _ => true

theorem perform_onward (s : Station) (now : Instant) {operation : Operation}
    (prompt : operation.isPrompt = true) : Onward s (s.perform now operation) := by
  cases operation with
  | spawn device a =>
    simp only [perform]
    cases spawned : s.spawn device a now with
    | error cause => exact .of_instances rfl
    | ok both =>
      obtain ⟨absent, i, same, _, first, latest, stored⟩ := spawn_ok spawned
      rw [← same] at absent stored
      refine .of_insert ?_ stored
      rw [absent]
      exact .created rfl (.of_snapshot latest) first
  | pause key => exact fun other => (command_rests other).goes
  | resume key => exact fun other => (command_rests other).goes
  | capture id => cases prompt
  | advance nanoseconds => cases prompt
  | shutdown => exact shutdown_onward s now
  | _ => exact .of_instances (perform_instances s now rfl (by simp))

def published (s : Station) : List ExecutionSnapshot := s.instances.values.map (·.latest)

-- Every instance stands under its key, has published itself, and has been through no more cycles than there
-- were turns.
def Counted (turns : Nat) (s : Station) : Prop :=
  ∀ key i, s.instances.get? key = some i → i.key = key ∧ i.Published ∧ i.cycle.toNat ≤ turns

-- Whatever was seen can still be seen, and in no earlier cycle.
def Behind (seen : List ExecutionSnapshot) (s : Station) : Prop :=
  ∀ e ∈ seen, ∃ i, s.instances.get? e.key = some i ∧ e.cycle ≤ i.latest.cycle

variable {turns : Nat} {seen : List ExecutionSnapshot}

theorem Counted.filed (counted : Counted turns s) : s.Filed := fun key i there => (counted key i there).1

theorem Counted.next (counted : Counted turns s) (onward : Onward s after) : Counted (turns + 1) after := by
  intro key i' there
  have goes := onward key
  rw [there] at goes
  generalize found : s.instances.get? key = before at goes
  cases goes with
  | created filed published first => exact ⟨filed, published, by simp [first]⟩
  | @on i _ filed published cycle =>
    obtain ⟨same, shown, few⟩ := counted key i found
    refine ⟨filed.trans same, published shown, ?_⟩
    rcases cycle with same | one
    · rw [same]
      exact few.trans (Nat.le_succ turns)
    · have wrapped := Nat.mod_le (i.cycle.toNat + 1) (2 ^ 64)
      rw [one, UInt64.toNat_add]
      exact wrapped.trans (Nat.succ_le_succ few)

theorem Behind.next (behind : Behind seen s) (counted : Counted turns s) (few : turns + 1 < 2 ^ 64)
    (onward : Onward s after) : Behind seen after := by
  intro e member
  obtain ⟨i, found, reached⟩ := behind e member
  obtain ⟨_, shown, counts⟩ := counted _ i found
  have goes := onward e.key
  rw [found] at goes
  generalize there : after.instances.get? e.key = next at goes
  cases goes with
  | @on _ i' _ published cycle =>
    refine ⟨i', rfl, UInt64.le_trans reached ?_⟩
    rw [shown.cycle, (published shown).cycle]
    rcases cycle with same | one
    · exact UInt64.le_of_eq same.symm
    · have whole : (i.cycle.toNat + 1) % 2 ^ 64 = i.cycle.toNat + 1 := Nat.mod_eq_of_lt (by omega)
      rw [one, UInt64.le_iff_toNat_le, UInt64.toNat_add]
      exact (Nat.le_succ _).trans (Nat.le_of_eq whole.symm)

theorem mem_published {e : ExecutionSnapshot} :
    e ∈ s.published ↔ ∃ key i, s.instances.get? key = some i ∧ i.latest = e := by
  simp only [published, List.mem_map, SortedMap.mem_values]
  constructor
  · rintro ⟨i, ⟨key, found⟩, same⟩
    exact ⟨key, i, found, same⟩
  · rintro ⟨key, i, found, same⟩
    exact ⟨i, ⟨key, found⟩, same⟩

theorem Behind.precedes (behind : Behind seen s) (counted : Counted turns s) :
    Precedes seen s.published := by
  intro e member e' member' same
  obtain ⟨i, found, reached⟩ := behind e member
  obtain ⟨key, i', found', rfl⟩ := mem_published.mp member'
  obtain ⟨filed, shown, _⟩ := counted key i' found'
  rw [same, shown.key.trans filed, found'] at found
  cases found
  exact reached

theorem Counted.published_behind (counted : Counted turns s) : Behind s.published s := by
  intro e member
  obtain ⟨key, i, found, rfl⟩ := mem_published.mp member
  obtain ⟨filed, shown, _⟩ := counted key i found
  exact ⟨i, by rw [shown.key.trans filed, found], UInt64.le_refl _⟩

end Station

end Chronomata
