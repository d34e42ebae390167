import Chronomata.Proofs.Instance.Moves

-- Instances that agree in their automaton, run state, current state, cycle, variables and inputs answer the
-- same operations alike; what else they keep is written and never read.
namespace Chronomata

-- An error as it is told of an instance.
def EngineError.about (key : InstanceKey) : EngineError → EngineError
  | invalidLifecycle _ runState action => invalidLifecycle key runState action
  | notRunning _ runState => notRunning key runState
  | unknownState _ state => unknownState key state
  | unknownDevice device => unknownDevice device
  | unknownInstance _ => unknownInstance key
  | duplicateInstance _ => duplicateInstance key

def Fault.event (key : InstanceKey) (now : Instant) (fault : Fault) : Event :=
  .about key now .error .scriptFailure (fault.message key)

-- Two snapshots of which only the keys and the times may differ, and if they are not the same as a whole,
-- the outputs, the state and the transition before.
structure ExecutionSnapshot.Alike (whole : Prop) (s s' : ExecutionSnapshot) : Prop where
  cycle : s.cycle = s'.cycle
  currentState : s.currentState = s'.currentState
  locals : s.locals = s'.locals
  inputs : s.inputs = s'.inputs
  runState : s.runState = s'.runState
  outputs : whole → s.outputs = s'.outputs
  previousState : whole → s.previousState = s'.previousState
  lastTransition : whole → s.lastTransition = s'.lastTransition

structure Turn.Alike (whole : Prop) (t u : Turn) : Prop where
  locals : t.locals = u.locals
  emitted : t.emitted = u.emitted
  calls : t.calls = u.calls
  outputs : whole → t.outputs = u.outputs

-- Two parts that from turns alike give the same answer and leave turns alike.
def Agree {α : Type} (whole : Prop) (part part' : TurnM α) : Prop :=
  ∀ t u, Turn.Alike whole t u →
    (part.run t).1 = (part'.run u).1 ∧ Turn.Alike whole (part.run t).2 (part'.run u).2

variable {α β : Type} {whole : Prop}

namespace Turn.Alike

variable {t u : Turn}

theorem note (same : Turn.Alike whole t u) (c : Call) : Turn.Alike whole (t.note c) (u.note c) :=
  ⟨same.locals, same.emitted, congrArg (· ++ [c]) same.calls, same.outputs⟩

theorem apply (same : Turn.Alike whole t u) (e : Effects) : Turn.Alike whole (t.apply e) (u.apply e) := by
  refine ⟨?_, ?_, same.calls, ?_⟩
  · exact congrArg (·.insertAll e.locals.entries) same.locals
  · exact congrArg (·.insertAll e.outputs.entries) same.emitted
  · exact fun all => congrArg (·.insertAll e.outputs.entries) (same.outputs all)

end Turn.Alike

namespace Agree

theorem pure (answer : α) : Agree whole (Pure.pure answer) (Pure.pure answer) :=
  fun _ _ same => ⟨rfl, same⟩

theorem bind {part part' : TurnM α} {next next' : α → TurnM β} (first : Agree whole part part')
    (second : ∀ answer, Agree whole (next answer) (next' answer)) :
    Agree whole (part >>= next) (part' >>= next') := by
  intro t u same
  obtain ⟨answers, left⟩ := first t u same
  rw [run_bind, run_bind, answers]
  cases (part'.run u).1 with
  | error fault => exact ⟨rfl, left⟩
  | ok answer => exact second answer _ _ left

end Agree

namespace Instance

-- Instances that agree in all that is read, and if they are the same as a whole, also in what is only
-- written. They may stand on different devices.
structure Alike (whole : Prop) (i j : Instance) : Prop where
  automaton : i.automaton = j.automaton
  runState : i.runState = j.runState
  currentState : i.currentState = j.currentState
  cycle : i.cycle = j.cycle
  locals : i.locals = j.locals
  inputs : i.inputs = j.inputs
  outputs : whole → i.outputs = j.outputs
  previousState : whole → i.previousState = j.previousState
  lastTransition : whole → i.lastTransition = j.lastTransition
  latest : whole → i.latest.Alike whole j.latest

-- The same report, told of two instances at two times.
structure TickReport.Alike (whole : Prop) (key key' : InstanceKey) (now now' : Instant)
    (r r' : TickReport) : Prop where
  fired : r.fired = r'.fired
  emitted : r.emitted = r'.emitted
  calls : r.calls = r'.calls
  events : ∃ faults : List Fault,
    r.events = faults.map (·.event key now) ∧ r'.events = faults.map (·.event key' now')
  snapshot : r.snapshot.Alike whole r'.snapshot

inductive Answer.Alike (whole : Prop) (key key' : InstanceKey) (now now' : Instant) :
    Answer → Answer → Prop where
  | done : Alike whole key key' now now' (.done (.ok ())) (.done (.ok ()))
  | refused (cause : EngineError) :
      Alike whole key key' now now' (.done (.error (cause.about key))) (.done (.error (cause.about key')))
  | ticked {r r' : TickReport} (same : r.Alike whole key key' now now' r') :
      Alike whole key key' now now' (.ticked (.ok r)) (.ticked (.ok r'))
  | unticked (cause : EngineError) :
      Alike whole key key' now now' (.ticked (.error (cause.about key)))
        (.ticked (.error (cause.about key')))

-- Two outcomes of one operation: both the same, or both refused for one cause.
inductive Told {α : Type} (i j : Instance) (Same : α → α → Prop) :
    Except EngineError α → Except EngineError α → Prop where
  | ok {left right : α} (same : Same left right) : Told i j Same (.ok left) (.ok right)
  | refused (cause : EngineError) : Told i j Same (.error (cause.about i.key)) (.error (cause.about j.key))

-- Operations one after the other: what each was answered, and the instance after it.
def play (i : Instance) : List (Operation × Instant) → List (Entry × Instance)
  | [] => []
  | (operation, now) :: rest =>
    let (after, answer) := i.perform now operation
    (⟨operation, now, answer⟩, after) :: after.play rest

-- The same operations, each at a time of its own, are answered alike by two instances and leave them alike.
def Parallel (whole : Prop) (i j : Instance) (steps : List (Operation × Instant × Instant)) : Prop :=
  List.Forall₂
    (fun x y => x.1.answer.Alike whole i.key j.key x.1.now y.1.now y.1.answer ∧ Alike whole x.2 y.2)
    (i.play (steps.map fun s => (s.1, s.2.1))) (j.play (steps.map fun s => (s.1, s.2.2)))

variable {i j : Instance}

theorem Alike.context (alike : Alike whole i j) {t u : Turn} (same : Turn.Alike whole t u)
    (state : String) : i.context state t = j.context state u := by
  simp only [Instance.context, alike.automaton, alike.cycle, alike.inputs, same.locals]

theorem Alike.beginTurn (alike : Alike whole i j) : Turn.Alike whole i.beginTurn j.beginTurn :=
  ⟨alike.locals, rfl, rfl, alike.outputs⟩

theorem Alike.runAction (alike : Alike whole i j) (host : Host) (state body : String) :
    Agree whole (i.runAction host state body) (j.runAction host state body) := by
  intro t u same
  have noted := same.note ⟨.execute, body, j.context state u⟩
  rw [run_runAction, run_runAction, alike.context same]
  cases host.execute body (j.context state u) with
  | ok effects => exact ⟨rfl, noted.apply effects⟩
  | error cause => exact ⟨rfl, noted⟩

theorem Alike.runActionIf (alike : Alike whole i j) (host : Host) (state : String)
    (body : Option String) :
    Agree whole (i.runActionIf host state body) (j.runActionIf host state body) := by
  cases body with
  | none => exact .pure ()
  | some body => exact alike.runAction host state body

theorem Alike.guardsHold (alike : Alike whole i j) (host : Host) (transition : String)
    (bodies : List String) :
    Agree whole (i.guardsHold host transition bodies) (j.guardsHold host transition bodies) := by
  induction bodies with
  | nil => exact .pure true
  | cons body rest ih =>
    intro t u same
    have noted := same.note ⟨.evaluate, body, j.context j.currentState u⟩
    rw [run_guardsHold, run_guardsHold, alike.currentState, alike.context same]
    cases host.evaluate body (j.context j.currentState u) with
    | error cause => exact ⟨rfl, noted⟩
    | ok holds =>
      cases holds with
      | false => exact ⟨rfl, noted⟩
      | true => exact ih _ _ noted

theorem Alike.evaluateGuards (alike : Alike whole i j) (host : Host) (guards : Guards)
    (transitions : List Transition) :
    Agree whole (i.evaluateGuards host guards transitions) (j.evaluateGuards host guards transitions) := by
  induction transitions generalizing guards with
  | nil => exact .pure guards
  | cons t rest ih => exact (alike.guardsHold host t.id t.guards).bind fun holds => ih _

theorem Alike.runChosen (alike : Alike whole i j) (host : Host) (state : State)
    (chosen : Option Transition) :
    Agree whole (i.runChosen host state chosen) (j.runChosen host state chosen) := by
  cases chosen with
  | none => exact .pure none
  | some t =>
    unfold Instance.runChosen
    rw [alike.automaton, alike.currentState]
    refine (alike.runActionIf host _ _).bind fun _ => ?_
    refine (alike.runActionIf host _ _).bind fun _ => ?_
    exact (alike.runActionIf host _ _).bind fun _ => .pure (some t)

theorem Alike.advance (alike : Alike whole i j) (host : Host) (state : State) :
    Agree whole (i.advance host state) (j.advance host state) := by
  rw [advance_eq, advance_eq, alike.automaton, alike.currentState, alike.cycle]
  refine (alike.runActionIf host _ _).bind fun _ => ?_
  exact (alike.evaluateGuards host _ _).bind fun guards => alike.runChosen host state _

variable {now now' : Instant}

theorem Alike.snapshot (alike : Alike whole i j) (now now' : Instant) :
    (i.snapshot now).Alike whole (j.snapshot now') :=
  ⟨alike.cycle, alike.currentState, alike.locals, alike.inputs, alike.runState, alike.outputs,
    alike.previousState, alike.lastTransition⟩

theorem Alike.publish (alike : Alike whole i j) (now now' : Instant) :
    Alike whole (i.publish now) (j.publish now') :=
  { alike with latest := fun _ => alike.snapshot now now' }

theorem Alike.changeRunState (alike : Alike whole i j) (now now' : Instant) (sources : List RunState)
    (target : RunState) (action : String) :
    Told i j (Alike whole) (i.changeRunState now sources target action)
      (j.changeRunState now' sources target action) := by
  have moved : Alike whole { i with runState := target } { j with runState := target } :=
    { alike with runState := rfl }
  unfold Instance.changeRunState
  rw [alike.runState]
  split_ifs with allowed
  · exact .ok (moved.publish now now')
  · exact .refused (.invalidLifecycle i.key j.runState action)

theorem Alike.reset (alike : Alike whole i j) (now now' : Instant) :
    Told i j (Alike whole) (i.reset now) (j.reset now') := by
  unfold Instance.reset
  rw [alike.runState, alike.automaton]
  split_ifs with stopped
  · refine .ok (Alike.publish ?_ now now')
    exact ⟨rfl, rfl, rfl, rfl, rfl, rfl, fun _ => rfl, fun _ => rfl, fun _ => rfl, alike.latest⟩
  · exact .refused (.invalidLifecycle i.key j.runState "reset")

theorem Alike.fire (alike : Alike whole i j) (t : Transition) : Alike whole (i.fire t) (j.fire t) where
  __ := alike
  currentState := rfl
  cycle := congrArg (· + 1) alike.cycle
  previousState _ := congrArg some alike.currentState
  lastTransition _ := rfl

theorem Alike.enterErrorState (alike : Alike whole i j) :
    Alike whole i.enterErrorState j.enterErrorState where
  __ := alike
  currentState := rfl
  cycle := congrArg (· + 1) alike.cycle
  previousState _ := congrArg some alike.currentState
  lastTransition _ := rfl

theorem Alike.conclude (alike : Alike whole i j) {t u : Turn} (same : Turn.Alike whole t u)
    (now now' : Instant) (outcome : Except Fault (Option Transition)) :
    Alike whole (i.conclude now outcome t).1 (j.conclude now' outcome u).1 ∧
      (i.conclude now outcome t).2.Alike whole i.key j.key now now' (j.conclude now' outcome u).2 := by
  have changed : Alike whole { i with locals := t.locals, outputs := t.outputs }
      { j with locals := u.locals, outputs := u.outputs } :=
    { alike with locals := same.locals, outputs := same.outputs }
  rcases outcome with fault | _ | fired
  · have fallen := changed.enterErrorState
    exact ⟨fallen.publish now now', rfl, same.emitted, same.calls, ⟨[fault], rfl, rfl⟩,
      fallen.snapshot now now'⟩
  · exact ⟨changed.publish now now', rfl, same.emitted, same.calls, ⟨[], rfl, rfl⟩,
      changed.snapshot now now'⟩
  · have moved := changed.fire fired
    exact ⟨moved.publish now now', rfl, same.emitted, same.calls, ⟨[], rfl, rfl⟩,
      moved.snapshot now now'⟩

theorem Alike.tick (alike : Alike whole i j) (host : Host) (now now' : Instant) :
    Told i j (fun x y => Alike whole x.1 y.1 ∧ x.2.Alike whole i.key j.key now now' y.2)
      (i.tick host now) (j.tick host now') := by
  unfold Instance.tick playTurn isFaulted
  rw [alike.runState, alike.currentState, alike.automaton]
  split_ifs with resting fallen
  · exact .refused (.notRunning i.key j.runState)
  · exact .ok (alike.conclude alike.beginTurn now now' (.ok none))
  · cases j.automaton.states.get? j.currentState with
    | none => exact .refused (.unknownState i.key j.currentState)
    | some state =>
      have advanced := alike.advance host state _ _ alike.beginTurn
      dsimp only [Except.map]
      generalize (i.advance host state).run i.beginTurn = result at advanced ⊢
      generalize (j.advance host state).run j.beginTurn = result' at advanced ⊢
      obtain ⟨outcome, turn⟩ := result
      obtain ⟨outcome', turn'⟩ := result'
      obtain ⟨answers, left⟩ := advanced
      cases (show outcome = outcome' from answers)
      exact .ok (alike.conclude left now now' outcome)

theorem Told.settle {outcome outcome' : Except EngineError Instance}
    (told : Told i j (Alike whole) outcome outcome') (alike : Alike whole i j) :
    (i.settle outcome).2.Alike whole i.key j.key now now' (j.settle outcome').2 ∧
      Alike whole (i.settle outcome).1 (j.settle outcome').1 := by
  cases told with
  | ok same => exact ⟨.done, same⟩
  | refused cause => exact ⟨.refused cause, alike⟩

theorem Alike.perform (alike : Alike whole i j) (now now' : Instant) (operation : Operation) :
    (i.perform now operation).2.Alike whole i.key j.key now now' (j.perform now' operation).2 ∧
      Alike whole (i.perform now operation).1 (j.perform now' operation).1 := by
  cases operation with
  | start => exact (alike.changeRunState now now' _ _ _).settle alike
  | pause => exact (alike.changeRunState now now' _ _ _).settle alike
  | resume => exact (alike.changeRunState now now' _ _ _).settle alike
  | stop => exact (alike.changeRunState now now' _ _ _).settle alike
  | reset => exact (alike.reset now now').settle alike
  | setInput name value =>
    refine ⟨.done, { alike with inputs := ?_ }⟩
    exact congrArg (·.insert name value) alike.inputs
  | tick host =>
    have told := alike.tick host now now'
    unfold Instance.perform
    dsimp only
    generalize i.tick host now = outcome at told ⊢
    generalize j.tick host now' = outcome' at told ⊢
    cases told with
    | ok same => exact ⟨.ticked same.2, same.1⟩
    | refused cause => exact ⟨.unticked cause, alike⟩

theorem Alike.play (alike : Alike whole i j) (steps : List (Operation × Instant × Instant)) :
    Parallel whole i j steps := by
  unfold Parallel
  induction steps generalizing i j with
  | nil => exact .nil
  | cons step rest ih =>
    obtain ⟨operation, now, now'⟩ := step
    obtain ⟨answers, left⟩ := alike.perform now now' operation
    refine .cons ⟨answers, left⟩ ?_
    have later := ih left
    rw [perform_key, perform_key] at later
    exact later

theorem new_alike (device device' : String) (a : Automaton) (now now' : Instant) :
    Alike True (Instance.new device a now) (Instance.new device' a now') :=
  ⟨rfl, rfl, rfl, rfl, rfl, rfl, fun _ => rfl, fun _ => rfl, fun _ => rfl,
    fun _ => ⟨rfl, rfl, rfl, rfl, rfl, fun _ => rfl, fun _ => rfl, fun _ => rfl⟩⟩

-- Instances that agree in what is read are told apart by nothing that is done to them, except by their keys and
-- by what was written before; an instance that was reset and a new one are told apart by their keys alone.
theorem continued_exact :
    (∀ (whole : Prop) (i j : Instance), Alike whole i j → ∀ steps, Parallel whole i j steps) ∧
      ∀ (i after : Instance) (now : Instant), i.reset now = .ok after →
        ∀ (device : String) (now' : Instant), Alike True after (Instance.new device i.automaton now') ∧
          ∀ steps, Parallel True after (Instance.new device i.automaton now') steps := by
  refine ⟨fun whole i j alike => alike.play, ?_⟩
  intro i after now back device now'
  obtain ⟨_, rfl⟩ := reset_eq_new back
  have fresh := new_alike i.device device i.automaton now now'
  exact ⟨fresh, fresh.play⟩

-- The siren again, and one on another device that was written to and came from elsewhere.
namespace Alarming

def elsewhere : Instance :=
  { started with
    device := "e"
    outputs := .ofEntries [("noise", .bool true)]
    previousState := some "T"
    lastTransition := some "t"
    latest := (Instance.new "e" siren .epoch).latest }

def halted : Instance := (ticked.perform .epoch .stop).1

def later : Instant := { Instant.epoch with minute := 1, minute_bounded := by decide }

def steps : List (Operation × Instant × Instant) :=
  [(.tick host, .epoch, later), (.stop, .epoch, later), (.reset, later, later), (.start, later, .epoch)]

end Alarming

open Alarming in
theorem continued_exact_alarming :
    started.Alike False elsewhere ∧ started.latest ≠ elsewhere.latest ∧
      Parallel False started elsewhere steps ∧
      ∃ after, halted.currentState = errorState ∧ halted.reset later = .ok after ∧
        Parallel True after (Instance.new "e" siren .epoch) steps := by
  have alike : started.Alike False elsewhere :=
    ⟨rfl, rfl, rfl, rfl, rfl, rfl, False.elim, False.elim, False.elim, False.elim⟩
  have back : halted.reset later = .ok (Instance.new "d" siren later) := by decide +kernel
  have same : halted.automaton = siren := by decide +kernel
  obtain ⟨read, fresh⟩ := continued_exact
  obtain ⟨_, plays⟩ := fresh halted _ later back "e" .epoch
  exact ⟨alike, by decide +kernel, read False _ _ alike steps, _, by decide +kernel, back,
    same ▸ plays steps⟩

end Instance

end Chronomata
