import Chronomata.Proofs.Instance.Runs

-- What one operation can do to an instance, and what its entry in the log says of it: the instance was reset,
-- a transition fired in a tick, a host failed a tick, or nothing of the kind.
namespace Chronomata.Instance

def Entry.resets : Entry → Bool
  | ⟨.reset, _, .done (.ok _)⟩ => true
  | _ => false

def Entry.fires (e : Entry) : Bool :=
  match e.answer with
  | .ticked (.ok report) => report.fired.isSome
  | _ => false

-- What a tick reports by an event is that a host failed it.
def Entry.faults (e : Entry) : Bool :=
  match e.answer with
  | .ticked (.ok report) => !report.events.isEmpty
  | _ => false

-- An entry of none of these kinds. It neither fails the instance nor makes up for a failure.
structure Entry.Quiet (e : Entry) : Prop where
  resets : e.resets = false
  fires : e.fires = false
  faults : e.faults = false
  follows (failed : Prop) : follow failed e = failed

-- What an operation does to the cycle: it leaves it as it is, or it is a reset, or a tick.
inductive Moves (i : Instance) (now : Instant) : Instance → Entry → Prop where
  | quiet {after : Instance} {e : Entry} (place : after.key = i.key) (same : after.cycle = i.cycle)
      (quiet : e.Quiet) : Moves i now after e
  | reset : Moves i now (Instance.new i.device i.automaton now) ⟨.reset, now, .done (.ok ())⟩
  | tick {host : Host} {after : Instance} {report : TickReport}
      (ticked : i.tick host now = .ok (after, report)) :
      Moves i now after ⟨.tick host, now, .ticked (.ok report)⟩

theorem changeRunState_moves (i : Instance) {operation : Operation} {now : Instant}
    (quiet : ∀ outcome, Entry.Quiet ⟨operation, now, .done outcome⟩) (sources : List RunState)
    (target : RunState) (action : String) :
    Moves i now (i.settle (i.changeRunState now sources target action)).1
      ⟨operation, now, (i.settle (i.changeRunState now sources target action)).2⟩ := by
  unfold Instance.changeRunState
  split_ifs
  · exact .quiet rfl rfl (quiet _)
  · exact .quiet rfl rfl (quiet _)

theorem perform_moves (i : Instance) (now : Instant) (operation : Operation) :
    Moves i now (i.perform now operation).1 ⟨operation, now, (i.perform now operation).2⟩ := by
  cases operation with
  | start => exact i.changeRunState_moves (fun _ => ⟨rfl, rfl, rfl, fun _ => rfl⟩) _ _ _
  | pause => exact i.changeRunState_moves (fun _ => ⟨rfl, rfl, rfl, fun _ => rfl⟩) _ _ _
  | resume => exact i.changeRunState_moves (fun _ => ⟨rfl, rfl, rfl, fun _ => rfl⟩) _ _ _
  | stop => exact i.changeRunState_moves (fun _ => ⟨rfl, rfl, rfl, fun _ => rfl⟩) _ _ _
  | setInput name value => exact .quiet rfl rfl ⟨rfl, rfl, rfl, fun _ => rfl⟩
  | reset =>
    cases back : i.reset now with
    | error cause =>
      simp only [perform, back]
      exact .quiet rfl rfl ⟨rfl, rfl, rfl, fun _ => rfl⟩
    | ok after =>
      simp only [perform, back]
      rw [(reset_eq_new back).2]
      exact .reset
  | tick host =>
    cases ticked : i.tick host now with
    | error cause =>
      simp only [perform, ticked]
      exact .quiet rfl rfl ⟨rfl, rfl, rfl, fun _ => rfl⟩
    | ok both =>
      simp only [perform, ticked]
      exact .tick ticked

-- Nothing moves an instance to another place.
theorem perform_key (i : Instance) (now : Instant) (operation : Operation) :
    (i.perform now operation).1.key = i.key := by
  have moves := i.perform_moves now operation
  generalize (i.perform now operation).1 = after at moves ⊢
  generalize (⟨operation, now, _⟩ : Entry) = e at moves
  cases moves with
  | quiet place _ _ => exact place
  | reset => rfl
  | tick ticked => exact (tick_kept ticked).1

end Chronomata.Instance
