import Chronomata.Instance
import Chronomata.Proofs.Selection.Choice

-- What the calls of a turn tell of its end: a turn ends with a fault exactly when the host failed one of
-- the calls that were made in it, whichever call that was. All of them are shown the same inputs.
namespace Chronomata

-- A call that the host answers with an error.
def Call.Fails (host : Host) (c : Call) : Prop :=
  match c.request with
  | .evaluate => ∃ cause, host.evaluate c.body c.context = .error cause
  | .execute => ∃ cause, host.execute c.body c.context = .error cause

section

variable {host : Host} {body : String} {context : Context}

theorem Call.passes_of_evaluate {holds : Bool} (answer : host.evaluate body context = .ok holds) :
    ¬ Call.Fails host ⟨.evaluate, body, context⟩ := by
  rintro ⟨cause, fails⟩
  cases answer.symm.trans fails

theorem Call.passes_of_execute {effects : Effects} (answer : host.execute body context = .ok effects) :
    ¬ Call.Fails host ⟨.execute, body, context⟩ := by
  rintro ⟨cause, fails⟩
  cases answer.symm.trans fails

end

-- The action that is run as long as the state lasts.
def State.action (s : State) : Option String := if s.code = "" then none else some s.code

-- How a part of a turn ends: with more calls, of scripts that all saw the same inputs; and with an answer
-- when none of these calls failed, or with a fault when one did.
def Ends {α : Type} (host : Host) (inputs : Values) (before : List Call)
    (outcome : Except Fault α × Turn) (Holds : α → Prop) : Prop :=
  ∃ calls, outcome.2.calls = before ++ calls ∧ (∀ c ∈ calls, c.context.inputs = inputs) ∧
    match outcome.1 with
    | .ok answer => (∀ c ∈ calls, ¬ c.Fails host) ∧ Holds answer
    | .error _ => ∃ c ∈ calls, c.Fails host

def Plays {α : Type} (host : Host) (inputs : Values) (part : TurnM α) (Holds : α → Prop) : Prop :=
  ∀ turn : Turn, Ends host inputs turn.calls (part.run turn) Holds

variable {α β : Type} {host : Host} {inputs : Values} {part : TurnM α} {Holds : α → Prop}

theorem run_bind (part : TurnM α) (next : α → TurnM β) (turn : Turn) :
    (part >>= next).run turn =
      match (part.run turn).1 with
      | .ok answer => (next answer).run (part.run turn).2
      | .error fault => (.error fault, (part.run turn).2) := by
  show (ExceptT.bindCont next (part.run turn).1) (part.run turn).2 = _
  generalize (part.run turn).1 = outcome
  cases outcome <;> rfl

namespace Ends

theorem quiet {before : List Call} {turn : Turn} {answer : α} (same : turn.calls = before)
    (holds : Holds answer) : Ends host inputs before (.ok answer, turn) Holds := by
  refine ⟨[], same.trans (List.append_nil _).symm, ?_, ?_, holds⟩ <;>
    exact fun c member => absurd member List.not_mem_nil

-- One call that is not answered with an error.
theorem one {turn after : Turn} {c : Call} {answer : α} (added : after.calls = turn.calls ++ [c])
    (shown : c.context.inputs = inputs) (passed : ¬ c.Fails host) (holds : Holds answer) :
    Ends host inputs turn.calls (.ok answer, after) Holds := by
  refine ⟨[c], added, ?_, ?_, holds⟩
  · intro call member
    exact List.mem_singleton.mp member ▸ shown
  · intro call member
    exact List.mem_singleton.mp member ▸ passed

theorem fault {turn : Turn} {c : Call} {cause : Fault} (shown : c.context.inputs = inputs)
    (fails : c.Fails host) : Ends host inputs turn.calls (.error cause, turn.note c) Holds := by
  refine ⟨[c], rfl, ?_, c, List.mem_singleton_self c, fails⟩
  intro call member
  exact List.mem_singleton.mp member ▸ shown

-- A first call, and then what comes after an answer that is no error.
theorem after_call {turn : Turn} {c : Call} {outcome : Except Fault α × Turn}
    (shown : c.context.inputs = inputs) (passed : ¬ c.Fails host)
    (rest : Ends host inputs (turn.note c).calls outcome Holds) :
    Ends host inputs turn.calls outcome Holds := by
  obtain ⟨calls, added, saw, ended⟩ := rest
  refine ⟨c :: calls, by rw [added]; simp [Turn.note], ?_, ?_⟩
  · intro call member
    rcases List.mem_cons.mp member with rfl | later
    · exact shown
    · exact saw call later
  · obtain ⟨_ | _, after⟩ := outcome
    · obtain ⟨failed, member, fails⟩ := ended
      exact ⟨failed, List.mem_cons_of_mem _ member, fails⟩
    · refine ⟨?_, ended.2⟩
      intro call member
      rcases List.mem_cons.mp member with rfl | later
      · exact passed
      · exact ended.1 call later

end Ends

namespace Plays

theorem pure {answer : α} (holds : Holds answer) : Plays host inputs (Pure.pure answer) Holds :=
  fun _ => .quiet rfl holds

theorem bind {next : α → TurnM β} {Holds' : β → Prop} (first : Plays host inputs part Holds)
    (second : ∀ answer, Holds answer → Plays host inputs (next answer) Holds') :
    Plays host inputs (part >>= next) Holds' := by
  intro turn
  obtain ⟨calls, added, saw, ended⟩ := first turn
  rw [run_bind]
  cases outcome : (part.run turn).1 with
  | error fault =>
    rw [outcome] at ended
    exact ⟨calls, added, saw, ended⟩
  | ok answer =>
    rw [outcome] at ended
    obtain ⟨later, addedLater, sawLater, endedLater⟩ := second answer ended.2 (part.run turn).2
    refine ⟨calls ++ later, ?_, ?_, ?_⟩
    · rw [addedLater, added, List.append_assoc]
    · intro c member
      rcases List.mem_append.mp member with before | afterwards
      · exact saw c before
      · exact sawLater c afterwards
    · cases outcome : ((next answer).run (part.run turn).2).1 with
      | ok told =>
        rw [outcome] at endedLater
        refine ⟨?_, endedLater.2⟩
        intro c member
        rcases List.mem_append.mp member with before | afterwards
        · exact ended.1 c before
        · exact endedLater.1 c afterwards
      | error fault =>
        rw [outcome] at endedLater
        obtain ⟨c, member, fails⟩ := endedLater
        exact ⟨c, List.mem_append_right _ member, fails⟩

end Plays

namespace Instance

variable {host : Host}

theorem run_runAction (i : Instance) (host : Host) (state body : String) (turn : Turn) :
    (i.runAction host state body).run turn =
      match host.execute body (i.context state turn) with
      | .ok effects => (.ok (), (turn.note ⟨.execute, body, i.context state turn⟩).apply effects)
      | .error cause =>
        (.error (.action state cause), turn.note ⟨.execute, body, i.context state turn⟩) := by
  show ExceptT.run (match host.execute body (i.context state turn) with
    | .ok effects => modify fun t => Turn.apply t effects
    | .error cause => throw (Fault.action state cause) : TurnM Unit)
      (turn.note ⟨.execute, body, i.context state turn⟩) = _
  cases host.execute body (i.context state turn) <;> rfl

theorem runAction_plays (i : Instance) (host : Host) (state body : String) :
    Plays host i.inputs (i.runAction host state body) fun _ => True := by
  intro turn
  rw [run_runAction]
  cases answer : host.execute body (i.context state turn) with
  | ok effects => exact .one rfl rfl (Call.passes_of_execute answer) trivial
  | error cause => exact .fault rfl ⟨cause, answer⟩

theorem runActionIf_plays (i : Instance) (host : Host) (state : String) (body : Option String) :
    Plays host i.inputs (i.runActionIf host state body) fun _ => True := by
  cases body with
  | none => exact .pure trivial
  | some body => exact i.runAction_plays host state body

theorem run_guardsHold (i : Instance) (host : Host) (transition body : String) (rest : List String)
    (turn : Turn) :
    (i.guardsHold host transition (body :: rest)).run turn =
      match host.evaluate body (i.context i.currentState turn) with
      | .ok true => (i.guardsHold host transition rest).run
          (turn.note ⟨.evaluate, body, i.context i.currentState turn⟩)
      | .ok false => (.ok false, turn.note ⟨.evaluate, body, i.context i.currentState turn⟩)
      | .error cause => (.error (.guard transition cause),
          turn.note ⟨.evaluate, body, i.context i.currentState turn⟩) := by
  show ExceptT.run (match host.evaluate body (i.context i.currentState turn) with
    | .ok true => i.guardsHold host transition rest
    | .ok false => pure false
    | .error cause => throw (Fault.guard transition cause) : TurnM Bool)
      (turn.note ⟨.evaluate, body, i.context i.currentState turn⟩) = _
  cases host.evaluate body (i.context i.currentState turn) with
  | ok holds => cases holds <;> rfl
  | error cause => rfl

theorem guardsHold_plays (i : Instance) (host : Host) (transition : String) (bodies : List String) :
    Plays host i.inputs (i.guardsHold host transition bodies) fun _ => True := by
  induction bodies with
  | nil => exact .pure trivial
  | cons body rest ih =>
    intro turn
    rw [run_guardsHold]
    cases answer : host.evaluate body (i.context i.currentState turn) with
    | error cause => exact .fault rfl ⟨cause, answer⟩
    | ok holds =>
      have passed := Call.passes_of_evaluate answer
      cases holds with
      | true => exact .after_call rfl passed (ih _)
      | false => exact .one rfl rfl passed trivial

theorem evaluateGuards_plays (i : Instance) (host : Host) (guards : Guards)
    (transitions : List Transition) :
    Plays host i.inputs (i.evaluateGuards host guards transitions) fun _ => True := by
  induction transitions generalizing guards with
  | nil => exact .pure trivial
  | cons t rest ih =>
    exact (i.guardsHold_plays host t.id t.guards).bind fun holds _ => ih _

-- The actions of the transition that was chosen, if any.
def runChosen (i : Instance) (host : Host) (state : State) :
    Option Transition → TurnM (Option Transition)
  | none => pure none
  | some t => do
    i.runActionIf host i.currentState t.body
    i.runActionIf host i.currentState state.onExit
    i.runActionIf host t.target ((i.automaton.states.get? t.target).bind (·.onEnter))
    pure (some t)

-- The action of the state, then the guards, then the actions of what they leave to be chosen.
theorem advance_eq (i : Instance) (host : Host) (state : State) :
    i.advance host state = (do
      i.runActionIf host i.currentState state.action
      let guards ← i.evaluateGuards host SortedMap.empty (i.automaton.transitionsFrom i.currentState)
      i.runChosen host state (i.automaton.select i.currentState guards i.cycle)) := by
  have chosen : ∀ guards : Guards, (match i.automaton.select i.currentState guards i.cycle with
      | none => pure none
      | some t => do
        i.runActionIf host i.currentState t.body
        i.runActionIf host i.currentState state.onExit
        i.runActionIf host t.target ((i.automaton.states.get? t.target).bind (·.onEnter))
        pure (some t) : TurnM (Option Transition)) =
      i.runChosen host state (i.automaton.select i.currentState guards i.cycle) := by
    intro guards
    cases i.automaton.select i.currentState guards i.cycle <;> rfl
  have afterwards := congrArg (i.evaluateGuards host SortedMap.empty
    (i.automaton.transitionsFrom i.currentState) >>= ·) (funext chosen)
  unfold advance State.action
  by_cases silent : state.code = ""
  · rw [if_neg (not_not.mpr silent), if_pos silent]
    exact afterwards
  · rw [if_pos silent, if_neg silent]
    exact congrArg (i.runAction host i.currentState state.code >>= ·) (funext fun _ => afterwards)

-- Only a transition of the automaton that leaves the current state can fire.
theorem advance_plays (i : Instance) (host : Host) (state : State) :
    Plays host i.inputs (i.advance host state) fun fired =>
      ∀ t, fired = some t → t ∈ i.automaton.transitions.values ∧ t.source = i.currentState := by
  rw [advance_eq]
  refine (i.runActionIf_plays host _ _).bind fun _ _ => ?_
  refine (i.evaluateGuards_plays host _ _).bind fun guards _ => ?_
  cases chosen : i.automaton.select i.currentState guards i.cycle with
  | none =>
    refine .pure ?_
    intro t fired
    cases fired
  | some t =>
    have foremost := Automaton.mem_rivals.mp (Automaton.select_mem chosen)
    refine (i.runActionIf_plays host _ _).bind fun _ _ => ?_
    refine (i.runActionIf_plays host _ _).bind fun _ _ => ?_
    refine (i.runActionIf_plays host _ _).bind fun _ _ => .pure ?_
    rintro _ ⟨⟩
    exact ⟨foremost.declared, foremost.leaves⟩

end Instance

end Chronomata
