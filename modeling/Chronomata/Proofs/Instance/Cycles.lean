import Chronomata.Proofs.Instance.Moves

-- The cycle of an instance counts the transitions that fired since it was new or last reset, and it counts its
-- fall into the error state as well. Only a reset ends a fault, so between two resets there is one at most.
namespace Chronomata.Instance

open Automaton

-- How many entries of one kind there are since the instance was new, or since it was last reset.
def since (kind : Entry → Bool) (log : List Entry) : Nat :=
  (log.rtakeWhile fun e => !e.resets).countP kind

def fired (log : List Entry) : Nat := since Entry.fires log

def faulted (log : List Entry) : Nat := since Entry.faults log

variable {a : Automaton} {i : Instance} {device : String} {log : List Entry}

theorem since_concat (kind : Entry → Bool) (log : List Entry) (e : Entry) :
    since kind (log ++ [e]) = if e.resets then 0 else since kind log + (kind e).toNat := by
  unfold since
  rw [List.rtakeWhile_concat]
  cases e.resets with
  | true => rfl
  | false =>
    simp only [Bool.not_false, if_true, List.countP_append, List.countP_singleton]
    cases kind e <;> rfl

theorem tick_cycle {host : Host} {now : Instant} {after : Instance} {report : TickReport}
    (ticked : i.tick host now = .ok (after, report)) :
    after.cycle = i.cycle + .ofNat (report.fired.isSome.toNat + (!report.events.isEmpty).toNat) := by
  obtain ⟨_, outcome, turn, _, made⟩ := tick_ok ticked
  obtain ⟨rfl, rfl⟩ := Prod.mk.inj made
  rcases outcome with fault | _ | t
  · rfl
  · exact (UInt64.add_zero _).symm
  · rfl

theorem Moves.counted {now : Instant} {after : Instance} {e : Entry} (moves : Moves i now after e)
    (counted : i.cycle = .ofNat (fired log + faulted log)) :
    after.cycle = .ofNat (fired (log ++ [e]) + faulted (log ++ [e])) := by
  unfold fired faulted at counted ⊢
  rw [since_concat, since_concat]
  cases moves with
  | quiet _ same quiet =>
    rw [same, counted, quiet.resets, quiet.fires, quiet.faults]
    rfl
  | reset => rfl
  | tick ticked =>
    rw [tick_cycle ticked, counted, ← UInt64.ofNat_add]
    congr 1
    exact Nat.add_add_add_comm _ _ _ _

-- One fault for an instance that has failed, and none for one that has not.
structure Once (failed : Prop) (faults : Nat) : Prop where
  held : ¬ failed → faults = 0
  fell : failed → faults = 1

-- In the error state no host is asked, so none can fail the instance again.
theorem Moves.once (wellFormed : WellFormed a) {now : Instant} {after : Instance} {e : Entry}
    (moves : Moves i now after e) (sound : Sound a i (Failed log))
    (once : Once (Failed log) (faulted log)) : Once (Failed (log ++ [e])) (faulted (log ++ [e])) := by
  have follows : Failed (log ++ [e]) = follow (Failed log) e := by
    simp only [Failed, List.foldl_append, List.foldl_cons, List.foldl_nil]
  unfold faulted at once ⊢
  rw [follows, since_concat]
  cases moves with
  | quiet _ same quiet =>
    rw [quiet.follows, quiet.resets, quiet.faults]
    exact once
  | reset => exact ⟨fun _ => rfl, False.elim⟩
  | @tick host _ report ticked =>
    obtain ⟨_, _, same, _, raises, quiet, silent⟩ :=
      tick_sound wellFormed sound (tick_running ticked) host now
    cases ticked.symm.trans same
    by_cases fails : Failed log
    · have silence : report.calls = [] := silent ((sound.isFaulted_iff wellFormed).mpr fails)
      have held : ¬ Raised host report := by
        rintro ⟨c, member, _⟩
        rw [silence] at member
        cases member
      refine ⟨fun holds => absurd (.inl fails) holds, fun _ => ?_⟩
      simp [Entry.resets, Entry.faults, quiet held, once.fell fails]
    · by_cases raised : Raised host report
      · obtain ⟨event, noted, _⟩ := raises raised
        refine ⟨fun holds => absurd (.inr raised) holds, fun _ => ?_⟩
        simp [Entry.resets, Entry.faults, noted, once.held fails]
      · refine ⟨fun _ => ?_, fun either => absurd either (not_or.mpr ⟨fails, raised⟩)⟩
        simp [Entry.resets, Entry.faults, quiet raised, once.held fails]

theorem runs_counted (runs : Runs device a i log) : i.cycle = .ofNat (fired log + faulted log) := by
  induction runs with
  | new now => rfl
  | @next i log before operation now ih => exact (i.perform_moves now operation).counted ih

theorem runs_once (wellFormed : WellFormed a) (runs : Runs device a i log) :
    Once (Failed log) (faulted log) := by
  induction runs with
  | new now => exact ⟨fun _ => rfl, False.elim⟩
  | @next i log before operation now ih =>
    exact (i.perform_moves now operation).once wellFormed (runs_sound wellFormed before) ih

theorem latest_cycle (ready : Ready a) (runs : Runs device a i log) :
    i.latest.cycle = .ofNat (fired log + faulted log) := by
  rw [(runs_sound ready.wellFormed runs).published.cycle]
  exact runs_counted runs

theorem totalCycles_of (device : String) (connection : Connection)
    (all : List (Instance × List Entry))
    (counted : ∀ r ∈ all, r.1.latest.cycle = .ofNat (fired r.2 + faulted r.2)) :
    (DeviceSummary.of device connection (all.map (·.1.latest))).totalCycles =
      .ofNat (all.map fun r => fired r.2 + faulted r.2).sum := by
  change (all.map (·.1.latest)).foldr _ 0 = _
  induction all with
  | nil => rfl
  | cons r rest ih =>
    obtain ⟨first, others⟩ := List.forall_mem_cons.mp counted
    rw [List.map_cons, List.foldr_cons, List.map_cons, List.sum_cons, UInt64.ofNat_add, first, ih others]

-- Whatever was done to an instance, the cycle that it published last is the number of transitions that fired
-- since it was new or last reset, and one more when a host failed it in between. It is the number of
-- transitions as long as no host did; the total of a device adds these numbers up.
theorem counted_exact (ready : Ready a) (runs : Runs device a i log) :
    i.latest.cycle = .ofNat (fired log + faulted log) ∧ (¬ Failed log → faulted log = 0) ∧
      (Failed log → faulted log = 1) ∧ (i.latest.cycle = .ofNat (fired log) ↔ ¬ Failed log) ∧
      ∀ (place : String) (connection : Connection) (all : List (Instance × List Entry)),
        (∀ r ∈ all, ∃ b device, Ready b ∧ Runs device b r.1 r.2) →
          (DeviceSummary.of place connection (all.map (·.1.latest))).totalCycles =
            .ofNat (all.map fun r => fired r.2 + faulted r.2).sum := by
  have cycle := latest_cycle ready runs
  have once := runs_once ready.wellFormed runs
  refine ⟨cycle, once.held, once.fell, ?_, ?_⟩
  · rw [cycle, UInt64.ofNat_add]
    constructor
    · intro fires fails
      rw [once.fell fails] at fires
      exact absurd (left_eq_add.mp fires.symm) (by decide)
    · intro holds
      rw [once.held holds]
      exact UInt64.add_zero _
  · intro place connection all each
    refine totalCycles_of place connection all fun r member => ?_
    obtain ⟨b, device, ready, runs⟩ := each r member
    exact latest_cycle ready runs

-- The siren again, and what was done to it.
namespace Alarming

def history : List Entry :=
  [⟨.start, .epoch, ((Instance.new "d" siren .epoch).perform .epoch .start).2⟩,
    ⟨.tick host, .epoch, (started.perform .epoch (.tick host)).2⟩]

end Alarming

-- It has nowhere to go, and yet it has counted a cycle.
open Alarming in
theorem counted_exact_alarming :
    load definition = .ok siren ∧ Runs "d" siren ticked history ∧ fired history = 0 ∧
      faulted history = 1 ∧ ticked.latest.cycle ≠ .ofNat (fired history) ∧
      (DeviceSummary.of "d" .connected [ticked.latest]).totalCycles = 1 := by
  have loaded : load definition = .ok siren := by decide +kernel
  have fallen : ticked.currentState = errorState := by decide +kernel
  have runs : Runs "d" siren ticked history :=
    ((Runs.new .epoch).next .start .epoch).next (.tick host) .epoch
  have fails : Failed history := (run_exact loaded runs).2.1.mp fallen
  obtain ⟨_, _, fell, exactly, total⟩ := counted_exact (.loaded loaded) runs
  have still : fired history = 0 := by decide +kernel
  have each : ∀ r ∈ [(ticked, history)], ∃ b device, Ready b ∧ Runs device b r.1 r.2 :=
    List.forall_mem_singleton.mpr ⟨siren, "d", .loaded loaded, runs⟩
  have sum := total "d" .connected _ each
  simp only [List.map_cons, List.map_nil, List.sum_cons, List.sum_nil, still, fell fails] at sum
  exact ⟨loaded, runs, still, fell fails, fun same => exactly.mp same fails, sum⟩

end Chronomata.Instance
