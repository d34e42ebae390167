import Chronomata.Proofs.Instance.Turn

-- Runs of one instance: any operations in any order, each tick with any host. The instance stays in a
-- declared state until a host fails it, and then in the error state until it is reset.
namespace Chronomata.Instance

open Automaton

inductive Operation where
  | start
  | pause
  | resume
  | stop
  | reset
  | setInput (name : String) (value : Value)
  | tick (host : Host)

inductive Answer where
  | done (outcome : Except EngineError Unit)
  | ticked (outcome : Except EngineError TickReport)

def Answer.calls : Answer → List Call
  | .ticked (.ok report) => report.calls
  | _ => []

-- What is refused leaves the instance as it was.
def settle (i : Instance) : Except EngineError Instance → Instance × Answer
  | .ok after => (after, .done (.ok ()))
  | .error cause => (i, .done (.error cause))

def perform (i : Instance) (now : Instant) : Operation → Instance × Answer
  | .start => i.settle (i.start now)
  | .pause => i.settle (i.pause now)
  | .resume => i.settle (i.resume now)
  | .stop => i.settle (i.stop now)
  | .reset => i.settle (i.reset now)
  | .setInput name value => (i.setInput name value, .done (.ok ()))
  | .tick host => match i.tick host now with
    | .ok (after, report) => (after, .ticked (.ok report))
    | .error cause => (i, .ticked (.error cause))

structure Entry where
  operation : Operation
  now : Instant
  answer : Answer

inductive Runs (device : String) (a : Automaton) : Instance → List Entry → Prop where
  | new (now : Instant) : Runs device a (Instance.new device a now) []
  | next {i : Instance} {log : List Entry} (before : Runs device a i log) (operation : Operation)
      (now : Instant) :
      Runs device a (i.perform now operation).1
        (log ++ [⟨operation, now, (i.perform now operation).2⟩])

-- A host failed one of the calls of a tick.
def Raised (host : Host) (report : TickReport) : Prop := ∃ c ∈ report.calls, c.Fails host

def follow (failed : Prop) : Entry → Prop
  | ⟨.reset, _, .done (.ok _)⟩ => False
  | ⟨.tick host, _, .ticked (.ok report)⟩ => failed ∨ Raised host report
  | _ => failed

-- A host failed a tick since the instance was new, or since it was last reset.
def Failed (log : List Entry) : Prop := log.foldl follow False

-- What was published last tells what the instance is; only the inputs may be newer.
structure Published (i : Instance) : Prop where
  key : i.latest.key = ⟨i.device, i.automaton.id⟩
  cycle : i.latest.cycle = i.cycle
  currentState : i.latest.currentState = i.currentState
  previousState : i.latest.previousState = i.previousState
  lastTransition : i.latest.lastTransition = i.lastTransition
  locals : i.latest.locals = i.locals
  outputs : i.latest.outputs = i.outputs
  runState : i.latest.runState = i.runState

namespace Published

theorem of_snapshot {i : Instance} {now : Instant} (same : i.latest = i.snapshot now) : Published i := by
  constructor <;> rw [same] <;> rfl

theorem withInputs {i : Instance} (published : Published i) (inputs : Values) :
    Published { i with inputs } :=
  ⟨published.key, published.cycle, published.currentState, published.previousState,
    published.lastTransition, published.locals, published.outputs, published.runState⟩

end Published

structure Sound (a : Automaton) (i : Instance) (failed : Prop) : Prop where
  automaton : i.automaton = a
  place : failed ∧ i.currentState = errorState ∨ ¬ failed ∧ i.currentState ∈ a.states.keys
  last : ∀ {id}, i.lastTransition = some id →
    ∃ t, a.transitions.get? id = some t ∧ i.previousState = some t.source ∧
      i.currentState = t.target
  published : Published i

variable {a : Automaton} {i : Instance} {failed : Prop}

theorem new_sound (wellFormed : WellFormed a) (device : String) (now : Instant) :
    Sound a (Instance.new device a now) False := by
  refine ⟨rfl, .inr ⟨not_false, wellFormed.initial⟩, ?_, .of_snapshot rfl⟩
  intro id last
  cases last

theorem changeRunState_sound (sound : Sound a i failed) {now : Instant} {sources : List RunState}
    {target : RunState} {action : String} {after : Instance}
    (changed : i.changeRunState now sources target action = .ok after) : Sound a after failed := by
  unfold changeRunState at changed
  split_ifs at changed
  cases changed
  exact ⟨sound.automaton, sound.place, sound.last, .of_snapshot rfl⟩

theorem setInput_sound (sound : Sound a i failed) (name : String) (value : Value) :
    Sound a (i.setInput name value) failed :=
  ⟨sound.automaton, sound.place, sound.last, sound.published.withInputs _⟩

-- Inputs change nothing else.
theorem setInputs_eq (i : Instance) (inputs : List (String × Value)) :
    i.setInputs inputs = { i with inputs := (i.setInputs inputs).inputs } := by
  induction inputs generalizing i with
  | nil => rfl
  | cons head rest ih => exact ih (i.setInput head.1 head.2)

-- A reset gives back every field that a new instance of the automaton has, on the same device.
theorem reset_eq_new {now : Instant} {after : Instance} (back : i.reset now = .ok after) :
    i.runState = .stopped ∧ after = Instance.new i.device i.automaton now := by
  obtain ⟨_, _, runState, _⟩ := i
  unfold reset at back
  split_ifs at back with stopped
  cases back
  cases (show runState = .stopped from stopped)
  exact ⟨rfl, rfl⟩

theorem reset_sound (wellFormed : WellFormed a) (sound : Sound a i failed) {now : Instant}
    {after : Instance} (back : i.reset now = .ok after) : Sound a after False := by
  obtain ⟨_, rfl⟩ := reset_eq_new back
  rw [sound.automaton]
  exact new_sound wellFormed _ _

theorem Sound.isFaulted_iff (wellFormed : WellFormed a) (sound : Sound a i failed) :
    i.currentState = errorState ↔ failed := by
  rcases sound.place with ⟨fails, fallen⟩ | ⟨holds, declared⟩
  · exact iff_of_true fallen fails
  · refine iff_of_false ?_ holds
    intro fallen
    exact wellFormed.reserved (fallen ▸ declared)

theorem rest_sound (sound : Sound a i failed) (now : Instant) (turn : Turn) :
    Sound a (i.conclude now (.ok none) turn).1 failed :=
  ⟨sound.automaton, sound.place, sound.last, .of_snapshot rfl⟩

theorem fire_sound (wellFormed : WellFormed a) (sound : Sound a i failed) (holds : ¬ failed)
    {t : Transition} (declared : t ∈ i.automaton.transitions.values)
    (leaves : t.source = i.currentState) (now : Instant) (turn : Turn) :
    Sound a (i.conclude now (.ok (some t)) turn).1 failed := by
  rw [sound.automaton] at declared
  obtain ⟨key, found⟩ := SortedMap.mem_values.mp declared
  refine ⟨sound.automaton, .inr ⟨holds, wellFormed.target found⟩, ?_, .of_snapshot rfl⟩
  rintro _ ⟨⟩
  exact ⟨t, (wellFormed.identified found).symm ▸ found, congrArg some leaves.symm, rfl⟩

theorem fault_sound (sound : Sound a i failed) (fault : Fault) (now : Instant) (turn : Turn) :
    Sound a (i.conclude now (.error fault) turn).1 True := by
  refine ⟨sound.automaton, .inl ⟨trivial, rfl⟩, ?_, .of_snapshot rfl⟩
  rintro _ ⟨⟩

-- In a declared state, a tick is what calling the host in that state makes of the turn.
theorem tick_of_standing (running : i.runState = .running) (standing : i.currentState ≠ errorState)
    {state : State} (known : i.automaton.states.get? i.currentState = some state) (host : Host)
    (now : Instant) :
    i.tick host now = .ok (i.conclude now ((i.advance host state).run i.beginTurn).1
      ((i.advance host state).run i.beginTurn).2) := by
  simp [tick, running, playTurn, isFaulted, standing, known, Except.map]
  rfl

-- A running instance always ticks. A fault is reported by one event, and leads to the error state; in
-- the error state the host is not asked.
theorem tick_sound (wellFormed : WellFormed a) (sound : Sound a i failed)
    (running : i.runState = .running) (host : Host) (now : Instant) :
    ∃ after report, i.tick host now = .ok (after, report) ∧
      Sound a after (failed ∨ Raised host report) ∧
      (Raised host report → ∃ event, report.events = [event] ∧ event.severity = .error) ∧
      (¬ Raised host report → report.events = []) ∧
      (i.currentState = errorState → report.calls = []) := by
  rcases sound.place with ⟨fails, fallen⟩ | ⟨holds, declared⟩
  · have ticked : i.tick host now = .ok (i.conclude now (.ok none) i.beginTurn) := by
      simp [tick, running, playTurn, isFaulted, fallen, Except.map]
    have quiet : ¬ Raised host (i.conclude now (.ok none) i.beginTurn).2 := by
      rintro ⟨c, member, _⟩
      cases member
    have stays : failed = (failed ∨ Raised host (i.conclude now (.ok none) i.beginTurn).2) :=
      propext ⟨.inl, fun either => either.resolve_right quiet⟩
    exact ⟨_, _, ticked, stays ▸ rest_sound sound now _, fun raised => absurd raised quiet,
      fun _ => rfl, fun _ => rfl⟩
  · have standing : i.currentState ≠ errorState := by
      intro fallen
      exact holds ((sound.isFaulted_iff wellFormed).mp fallen)
    obtain ⟨state, known⟩ := SortedMap.mem_keys.mp declared
    obtain ⟨calls, added, _, ended⟩ := i.advance_plays host state i.beginTurn
    have ticked := tick_of_standing running standing (sound.automaton ▸ known) host now
    generalize (i.advance host state).run i.beginTurn = result at *
    obtain ⟨outcome, turn⟩ := result
    have made : turn.calls = calls := added
    cases outcome with
    | error fault =>
      have raised : Raised host (i.conclude now (.error fault) turn).2 := by
        rw [← made] at ended
        exact ended
      have falls : True = (failed ∨ Raised host (i.conclude now (.error fault) turn).2) :=
        propext ⟨fun _ => .inr raised, fun _ => trivial⟩
      exact ⟨_, _, ticked, falls ▸ fault_sound sound fault now turn, fun _ => ⟨_, rfl, rfl⟩,
        fun quiet => absurd raised quiet, fun fallen => absurd fallen standing⟩
    | ok fired =>
      have quiet : ¬ Raised host (i.conclude now (.ok fired) turn).2 := by
        rintro ⟨c, member, fails⟩
        have called : c ∈ turn.calls := by cases fired <;> exact member
        exact ended.1 c (made ▸ called) fails
      have stays : failed = (failed ∨ Raised host (i.conclude now (.ok fired) turn).2) :=
        propext ⟨.inl, fun either => either.resolve_right quiet⟩
      refine ⟨_, _, ticked, stays ▸ ?_, fun raised => absurd raised quiet, fun _ => ?_,
        fun fallen => absurd fallen standing⟩
      · cases fired with
        | none => exact rest_sound sound now turn
        | some t =>
          obtain ⟨listed, leaves⟩ := ended.2 t rfl
          exact fire_sound wellFormed sound holds listed leaves now turn
      · cases fired <;> rfl

theorem tick_ok {host : Host} {now : Instant} {result : Instance × TickReport}
    (ticked : i.tick host now = .ok result) :
    i.runState = .running ∧ ∃ outcome turn,
      i.playTurn host = .ok (outcome, turn) ∧ result = i.conclude now outcome turn := by
  unfold tick at ticked
  split_ifs at ticked with stopped
  refine ⟨not_not.mp stopped, ?_⟩
  cases played : i.playTurn host with
  | error cause => rw [played] at ticked; cases ticked
  | ok both =>
    rw [played] at ticked
    exact ⟨both.1, both.2, rfl, (Except.ok.inj ticked).symm⟩

section

variable {host : Host} {now : Instant} {after : Instance} {report : TickReport}

theorem tick_running (ticked : i.tick host now = .ok (after, report)) : i.runState = .running :=
  (tick_ok ticked).1

-- A tick moves no instance to another place, and gives it no input.
theorem tick_kept (ticked : i.tick host now = .ok (after, report)) :
    after.key = i.key ∧ after.automaton = i.automaton ∧ after.inputs = i.inputs := by
  obtain ⟨_, outcome, turn, _, made⟩ := tick_ok ticked
  rw [show after = (i.conclude now outcome turn).1 from congrArg Prod.fst made]
  rcases outcome with _ | _ | _ <;> exact ⟨rfl, rfl, rfl⟩

-- A tick moves no run state, and all that it notes are failures.
theorem tick_notes (ticked : i.tick host now = .ok (after, report)) :
    after.runState = i.runState ∧ ∀ e ∈ report.events, e.kind = .scriptFailure := by
  obtain ⟨_, outcome, turn, _, made⟩ := tick_ok ticked
  obtain ⟨rfl, rfl⟩ := Prod.mk.inj made
  rcases outcome with _ | _ | _
  · exact ⟨rfl, List.forall_mem_singleton.mpr rfl⟩
  · exact ⟨rfl, List.forall_mem_nil _⟩
  · exact ⟨rfl, List.forall_mem_nil _⟩

-- A tick counts one cycle at most, and publishes what has become of the instance.
theorem tick_counts (ticked : i.tick host now = .ok (after, report)) :
    (after.cycle = i.cycle ∨ after.cycle = i.cycle + 1) ∧ after.latest = after.snapshot now := by
  obtain ⟨_, outcome, turn, _, made⟩ := tick_ok ticked
  rw [show after = (i.conclude now outcome turn).1 from congrArg Prod.fst made]
  rcases outcome with _ | _ | _
  · exact ⟨.inr rfl, rfl⟩
  · exact ⟨.inl rfl, rfl⟩
  · exact ⟨.inr rfl, rfl⟩

-- Every script of a tick sees the inputs that the instance had before.
theorem tick_shows (ticked : i.tick host now = .ok (after, report)) :
    ∀ c ∈ report.calls, c.context.inputs = i.inputs := by
  obtain ⟨_, outcome, turn, played, made⟩ := tick_ok ticked
  have noted : report.calls = turn.calls := by
    rw [show report = (i.conclude now outcome turn).2 from congrArg Prod.snd made]
    rcases outcome with _ | _ | _ <;> rfl
  rw [noted]
  unfold playTurn at played
  split at played
  · cases played
    exact fun c member => absurd member List.not_mem_nil
  · split at played
    · rename_i state _
      obtain ⟨calls, added, saw, _⟩ := i.advance_plays host state i.beginTurn
      have left : turn = ((i.advance host state).run i.beginTurn).2 :=
        (congrArg Prod.snd (Except.ok.inj played)).symm
      rw [left, added]
      exact saw
    · cases played

end

theorem settle_sound {outcome : Except EngineError Instance} (sound : Sound a i failed)
    (kept : ∀ after, outcome = .ok after → Sound a after failed) :
    Sound a (i.settle outcome).1 failed := by
  cases outcome with
  | ok after => exact kept after rfl
  | error cause => exact sound

theorem perform_sound (wellFormed : WellFormed a) (sound : Sound a i failed)
    (operation : Operation) (now : Instant) :
    Sound a (i.perform now operation).1
      (follow failed ⟨operation, now, (i.perform now operation).2⟩) := by
  cases operation with
  | start => exact settle_sound sound fun after changed => changeRunState_sound sound changed
  | pause => exact settle_sound sound fun after changed => changeRunState_sound sound changed
  | resume => exact settle_sound sound fun after changed => changeRunState_sound sound changed
  | stop => exact settle_sound sound fun after changed => changeRunState_sound sound changed
  | setInput name value => exact setInput_sound sound name value
  | reset =>
    cases back : i.reset now with
    | ok after =>
      simp only [perform, back]
      exact reset_sound wellFormed sound back
    | error cause =>
      simp only [perform, back]
      exact sound
  | tick host =>
    cases ticked : i.tick host now with
    | error cause =>
      simp only [perform, ticked]
      exact sound
    | ok both =>
      obtain ⟨after, report⟩ := both
      obtain ⟨_, _, same, kept, _⟩ := tick_sound wellFormed sound (tick_running ticked) host now
      cases ticked.symm.trans same
      simp only [perform, ticked]
      exact kept

theorem runs_sound (wellFormed : WellFormed a) {device : String} {log : List Entry}
    (runs : Runs device a i log) : Sound a i (Failed log) := by
  induction runs with
  | new now => exact new_sound wellFormed device now
  | next before operation now ih =>
    have after := perform_sound wellFormed ih operation now
    simpa only [Failed, List.foldl_append, List.foldl_cons, List.foldl_nil] using after

-- Only a reset makes up for a failure.
theorem follow_failed {operation : Operation} (others : operation ≠ .reset) (fails : failed)
    (now : Instant) (answer : Answer) : follow failed ⟨operation, now, answer⟩ := by
  cases operation with
  | reset => exact absurd rfl others
  | tick host =>
    rcases answer with _ | _ | _
    · exact fails
    · exact fails
    · exact .inl fails
  | _ => exact fails

theorem settle_calls (outcome : Except EngineError Instance) : (i.settle outcome).2.calls = [] := by
  cases outcome <;> rfl

theorem fallen_calls (wellFormed : WellFormed a) (sound : Sound a i failed)
    (fallen : i.currentState = errorState) (operation : Operation) (now : Instant) :
    (i.perform now operation).2.calls = [] := by
  cases operation with
  | setInput name value => rfl
  | tick host =>
    cases ticked : i.tick host now with
    | error cause =>
      simp only [perform, ticked]
      rfl
    | ok both =>
      obtain ⟨after, report⟩ := both
      obtain ⟨_, _, same, _, _, _, silent⟩ :=
        tick_sound wellFormed sound (tick_running ticked) host now
      cases ticked.symm.trans same
      simp only [perform, ticked]
      exact silent fallen
  | _ => exact settle_calls _

-- Whatever was done to an instance, the log alone says whether it is in the error state; what was
-- published last is behind in nothing but the inputs.
theorem run_exact {d : Definition} (loaded : load d = .ok a) {device : String} {log : List Entry}
    (runs : Runs device a i log) :
    (i.currentState ∈ a.states.keys ∨ i.currentState = errorState) ∧
      (i.currentState = errorState ↔ Failed log) ∧
      (i.runState = .running → ∀ host now, ∃ after report, i.tick host now = .ok (after, report) ∧
        (Raised host report → ∃ event, report.events = [event] ∧ event.severity = .error) ∧
        (¬ Raised host report → report.events = [])) ∧
      (i.currentState = errorState → ∀ operation now,
        (i.perform now operation).2.calls = [] ∧
          (operation ≠ .reset → (i.perform now operation).1.currentState = errorState)) ∧
      (∀ id, i.lastTransition = some id → ∃ t, a.transitions.get? id = some t ∧
        i.previousState = some t.source ∧ i.currentState = t.target) ∧
      Published i := by
  have wellFormed := load_wellFormed loaded
  have sound := runs_sound wellFormed runs
  refine ⟨?_, sound.isFaulted_iff wellFormed, ?_, ?_, fun id => sound.last, sound.published⟩
  · rcases sound.place with ⟨_, fallen⟩ | ⟨_, declared⟩
    · exact .inr fallen
    · exact .inl declared
  · intro running host now
    obtain ⟨after, report, ticked, _, raised, quiet, _⟩ := tick_sound wellFormed sound running host now
    exact ⟨after, report, ticked, raised, quiet⟩
  · intro fallen operation now
    have fails := (sound.isFaulted_iff wellFormed).mp fallen
    have after := perform_sound wellFormed sound operation now
    refine ⟨fallen_calls wellFormed sound fallen operation now, ?_⟩
    intro others
    exact (after.isFaulted_iff wellFormed).mpr (follow_failed others fails now _)

-- One state whose action no host can run.
namespace Alarming

def places : List (String × State) := [("S", { State.plain "S" with code := "alarm" })]

def definition : Definition where
  version := "1"
  header := ⟨"siren", .inline, "lua", "", [], none⟩
  initial := "S"
  states := places
  transitions := []
  inputs := SortedMap.empty
  outputs := SortedMap.empty

def siren : Automaton where
  version := "1"
  header := ⟨"siren", .inline, "lua", "", [], none⟩
  initial := "S"
  states := .ofEntries places
  transitions := SortedMap.empty
  inputs := SortedMap.empty
  outputs := SortedMap.empty
  isDirty := false

def host : Host := ⟨fun _ _ => .ok true, fun body _ => .error ⟨body, "no such action"⟩⟩

def started : Instance := ((Instance.new "d" siren .epoch).perform .epoch .start).1

def ticked : Instance := (started.perform .epoch (.tick host)).1

end Alarming

open Alarming in
theorem run_exact_alarming :
    load definition = .ok siren ∧ ∃ log, Runs "d" siren ticked log ∧
      ticked.currentState = errorState ∧ Failed log ∧ Published ticked := by
  have loaded : load definition = .ok siren := by decide +kernel
  have fallen : ticked.currentState = errorState := by decide +kernel
  have runs := ((Runs.new .epoch : Runs "d" siren _ _).next .start .epoch).next (.tick host) .epoch
  obtain ⟨_, faulted, _, _, _, published⟩ := run_exact loaded runs
  exact ⟨loaded, _, runs, fallen, faulted.mp fallen, published⟩

end Chronomata.Instance
