import Chronomata.Proofs.Automaton.Loading
import Chronomata.Proofs.Instance.Runs
import Chronomata.Proofs.Instance.Script

-- The protocol of a tick: which scripts the host is called for, in which order and seeing what. What the tick
-- changes is what its calls wrote.
namespace Chronomata

-- The bodies that a transition may fire under, in their order: its condition, the condition of a chance that
-- is enabled, the expression of a fuzzy guard that is enabled.
def Transition.bodies (t : Transition) : List String :=
  let condition := match t.condition with
    | some body => [body]
    | none => []
  let drawn := match t.chance with
    | some ⟨true, _, some body⟩ => [body]
    | _ => []
  let fuzzy := match t.fuzzyGuard with
    | some ⟨true, body, _⟩ => [body]
    | _ => []
  condition ++ drawn ++ fuzzy

theorem Transition.guards_eq (t : Transition) : t.guards = t.bodies := by
  unfold guards bodies
  congr 1
  · congr 1
    · cases t.condition <;> rfl
    · rcases t.chance with _ | ⟨_ | _, _, _ | _⟩ <;> rfl
  · rcases t.fuzzyGuard with _ | ⟨_ | _, _, _⟩ <;> rfl

namespace Instance

open Automaton

-- The guards of a transition that are asked: they end with the first one that does not hold.
def asked (holds : String → Bool) : List String → List String
  | [] => []
  | body :: rest => body :: if holds body then asked holds rest else []

def actionScripts (state : String) (body : Option String) : List Script :=
  body.toList.map (⟨.execute, ·, state⟩)

-- Whether a guard holds in the current state, with the variables as given. One that fails does not.
def holds (i : Instance) (host : Host) (seen : Values) (body : String) : Bool :=
  let context := ⟨i.automaton.id, i.currentState, i.cycle, i.inputs, seen⟩
  (host.evaluate body context).toOption.getD false

-- The variables that the guards are shown: those that the action of the state leaves.
def seen (i : Instance) (host : Host) (state : State) : Values :=
  let context := ⟨i.automaton.id, i.currentState, i.cycle, i.inputs, i.locals⟩
  localsAfter host i.locals (state.action.toList.map (⟨.execute, ·, context⟩))

def guardScripts (i : Instance) (host : Host) (seen : Values) (t : Transition) : List Script :=
  (asked (i.holds host seen) t.bodies).map (⟨.evaluate, ·, i.currentState⟩)

def guardResults (i : Instance) (host : Host) (seen : Values) : Guards :=
  .ofEntries ((i.automaton.transitionsFrom i.currentState).map fun t =>
    (t.id, t.bodies.all (i.holds host seen)))

-- The transition that the guards leave to be chosen.
def choice (i : Instance) (host : Host) (state : State) : Option Transition :=
  i.automaton.select i.currentState (i.guardResults host (i.seen host state)) i.cycle

-- The actions of a transition: its own, that of the state it leaves, that of the state it enters.
def firingScripts (i : Instance) (state : State) (t : Transition) : List Script :=
  actionScripts i.currentState t.body ++ actionScripts i.currentState state.onExit ++
    actionScripts t.target ((i.automaton.states.get? t.target).bind (·.onEnter))

-- All that a tick in a state hands over when no script fails.
def scripts (i : Instance) (host : Host) (state : State) : List Script :=
  actionScripts i.currentState state.action ++
    (i.automaton.transitionsFrom i.currentState).flatMap (i.guardScripts host (i.seen host state)) ++
    (i.choice host state).toList.flatMap (i.firingScripts state)

variable {i : Instance} {host : Host} {turn after : Turn}

theorem runAction_recites (i : Instance) (host : Host) (turn : Turn) (state body : String) :
    Recites i host turn [⟨.execute, body, state⟩] () ((i.runAction host state body).run turn) := by
  rw [run_runAction]
  cases answer : host.execute body (i.context state turn) with
  | error cause => exact .failed (.failed ⟨cause, answer⟩)
  | ok effects =>
    have left : turn.answered host ⟨.execute, body, i.context state turn⟩ =
        (turn.note ⟨.execute, body, i.context state turn⟩).apply effects := by
      simp [Turn.answered, Call.effects?, answer, Except.toOption]
    exact .passed (.next (Call.passes_of_execute answer) (left ▸ .done))

theorem runActionIf_recites (i : Instance) (host : Host) (turn : Turn) (state : String)
    (body : Option String) :
    Recites i host turn (actionScripts state body) () ((i.runActionIf host state body).run turn) := by
  cases body with
  | none => exact .pure
  | some body => exact i.runAction_recites host turn state body

theorem guardsHold_recites (i : Instance) (host : Host) (turn : Turn) (transition : String)
    (bodies : List String) :
    Recites i host turn
      ((asked (i.holds host turn.locals) bodies).map (⟨.evaluate, ·, i.currentState⟩))
      (bodies.all (i.holds host turn.locals)) ((i.guardsHold host transition bodies).run turn) := by
  induction bodies generalizing turn with
  | nil => exact .pure
  | cons body rest ih =>
    rw [run_guardsHold]
    have told : i.holds host turn.locals body =
        (host.evaluate body (i.context i.currentState turn)).toOption.getD false := rfl
    cases answer : host.evaluate body (i.context i.currentState turn) with
    | error cause =>
      exact .failed (.failed ⟨cause, answer⟩)
    | ok held =>
      have passes := Call.passes_of_evaluate answer
      rw [answer] at told
      cases held with
      | false =>
        simp only [asked, told, List.all_cons]
        exact .passed (.next passes .done)
      | true =>
        simp only [asked, told, List.all_cons]
        have behind := ih (turn.note ⟨.evaluate, body, i.context i.currentState turn⟩)
        generalize (i.guardsHold host transition rest).run _ = outcome at behind ⊢
        cases behind with
        | passed later => exact .passed (.next passes later)
        | failed later => exact .failed (.next passes later)

-- Guards change nothing, so all of them are shown the same variables.
theorem evaluateGuards_recites (i : Instance) (host : Host) (turn : Turn) (guards : Guards)
    (transitions : List Transition) :
    Recites i host turn (transitions.flatMap (i.guardScripts host turn.locals))
      (guards.insertAll (transitions.map fun t => (t.id, t.bodies.all (i.holds host turn.locals))))
      ((i.evaluateGuards host guards transitions).run turn) := by
  induction transitions generalizing guards turn with
  | nil => exact .pure
  | cons t rest ih =>
    have first : Recites i host turn (i.guardScripts host turn.locals t)
        (t.bodies.all (i.holds host turn.locals)) ((i.guardsHold host t.id t.guards).run turn) := by
      rw [t.guards_eq]
      exact i.guardsHold_recites host turn t.id t.bodies
    refine first.bind ?_
    intro after carried
    have kept := carried.locals_of_evaluate (by simp [guardScripts])
    have behind := ih after (guards.insert t.id (t.bodies.all (i.holds host turn.locals)))
    rw [kept] at behind
    exact behind

theorem runChosen_recites (i : Instance) (host : Host) (turn : Turn) (state : State)
    (chosen : Option Transition) :
    Recites i host turn (chosen.toList.flatMap (i.firingScripts state)) chosen
      ((i.runChosen host state chosen).run turn) := by
  cases chosen with
  | none => exact .pure
  | some t =>
    have ordered : (some t).toList.flatMap (i.firingScripts state) =
        actionScripts i.currentState t.body ++ (actionScripts i.currentState state.onExit ++
          (actionScripts t.target ((i.automaton.states.get? t.target).bind (·.onEnter)) ++ [])) := by
      simp [firingScripts]
    rw [ordered]
    refine (i.runActionIf_recites host turn _ _).bind fun _ _ => ?_
    refine (i.runActionIf_recites host _ _ _).bind fun _ _ => ?_
    exact (i.runActionIf_recites host _ _ _).bind fun _ _ => .pure

theorem carried_action {state : State}
    (carried : Carried i host i.beginTurn (actionScripts i.currentState state.action) true after) :
    after.locals = i.seen host state := by
  unfold seen
  generalize state.action = action at carried ⊢
  cases action with
  | none =>
    cases carried
    rfl
  | some body =>
    cases carried with
    | next passes later =>
      cases later
      rw [Turn.answered_eq]
      rfl

theorem advance_recites (i : Instance) (host : Host) (state : State) :
    Recites i host i.beginTurn (i.scripts host state) (i.choice host state)
      ((i.advance host state).run i.beginTurn) := by
  rw [advance_eq, scripts, List.append_assoc]
  refine (i.runActionIf_recites host i.beginTurn i.currentState state.action).bind ?_
  intro after carried
  unfold choice
  rw [← carried_action carried]
  refine (i.evaluateGuards_recites host after SortedMap.empty _).bind ?_
  intro later _
  exact i.runChosen_recites host later state _

-- However the calls of a turn end, the tick keeps what they have changed until then.
theorem conclude_keeps (i : Instance) (now : Instant) (outcome : Except Fault (Option Transition))
    (turn : Turn) :
    (i.conclude now outcome turn).1.locals = turn.locals ∧
      (i.conclude now outcome turn).1.outputs = turn.outputs ∧
      (i.conclude now outcome turn).2.emitted = turn.emitted ∧
      (i.conclude now outcome turn).2.calls = turn.calls := by
  rcases outcome with _ | _ | _ <;> exact ⟨rfl, rfl, rfl, rfl⟩

theorem mem_outgoing {a : Automaton} (wellFormed : WellFormed a) (state : String) (t : Transition) :
    t ∈ a.transitionsFrom state ↔ a.transitions.get? t.id = some t ∧ t.source = state := by
  rw [mem_transitionsFrom, SortedMap.mem_values]
  constructor
  · rintro ⟨⟨key, found⟩, leaves⟩
    rw [wellFormed.identified found]
    exact ⟨found, leaves⟩
  · rintro ⟨found, leaves⟩
    exact ⟨⟨t.id, found⟩, leaves⟩

-- The calls of a tick are the scripts of the protocol, in their order, up to the first one that fails; every
-- call sees what the ones before it left. What the tick changes is what its calls wrote, and what fires is
-- what the answers to the guards leave to be chosen.
theorem called_exact {a : Automaton} (ready : Ready a) {device : String} {log : List Entry}
    (runs : Runs device a i log) (running : i.runState = .running)
    (standing : i.currentState ≠ errorState) (host : Host) (now : Instant) :
    ∃ state after report, a.states.get? i.currentState = some state ∧
      i.tick host now = .ok (after, report) ∧
      (a.transitionsFrom i.currentState).Pairwise (fun t u => Text.bytes t.id < Text.bytes u.id) ∧
      (∀ t, t ∈ a.transitionsFrom i.currentState ↔
        a.transitions.get? t.id = some t ∧ t.source = i.currentState) ∧
      Transcript i host i.locals (i.scripts host state) report.calls ∧
      after.locals = localsAfter host i.locals report.calls ∧
      after.outputs = outputsAfter host i.outputs report.calls ∧
      report.emitted = outputsAfter host SortedMap.empty report.calls ∧
      ((∀ c ∈ report.calls, ¬ c.Fails host) → report.fired = (i.choice host state).map (·.id)) ∧
      ((∃ c ∈ report.calls, c.Fails host) → report.fired = none) := by
  have wellFormed := ready.wellFormed
  have sound := runs_sound wellFormed runs
  have declared : i.currentState ∈ a.states.keys := by
    rcases sound.place with ⟨_, fallen⟩ | ⟨_, declared⟩
    · exact absurd fallen standing
    · exact declared
  obtain ⟨state, known⟩ := SortedMap.mem_keys.mp declared
  have ticked := tick_of_standing running standing (sound.automaton ▸ known) host now
  have recites := i.advance_recites host state
  generalize (i.advance host state).run i.beginTurn = result at ticked recites
  obtain ⟨outcome, turn⟩ := result
  obtain ⟨calls, transcript, left, passed, failed⟩ := recites.transcript
  rw [foldl_answered] at left
  obtain ⟨locals, outputs, emitted, made⟩ := i.conclude_keeps now outcome turn
  refine ⟨state, (i.conclude now outcome turn).1, (i.conclude now outcome turn).2, known, ticked,
    transitionsFrom_increase wellFormed _, mem_outgoing wellFormed _, ?_⟩
  rw [made, locals, outputs, emitted, left]
  refine ⟨transcript, rfl, rfl, rfl, ?_, ?_⟩
  · intro passes
    rw [passed passes]
    cases i.choice host state <;> rfl
  · intro fails
    obtain ⟨fault, rfl⟩ := failed fails
    rfl

-- A press that warms up before it shuts, and whose latch is jammed. Of the guards of staying idle the second
-- does not hold, so the third is not asked; that of a chance which is not enabled is not asked either.
namespace Jamming

def places : List (String × State) :=
  [("open", { State.plain "open" with code := "warm", onExit := some "release" }),
    ("shut", { State.plain "shut" with onEnter := some "latch" })]

def ways : List (String × Transition) :=
  [("idle", ⟨"idle", "open", "open", some "spare", none, 0, 1.0, some ⟨true, 1.0, some "cold"⟩,
      some ⟨true, "damp", 0.5⟩⟩),
    ("press", ⟨"press", "open", "shut", some "hot", some "announce", 0, 1.0, some ⟨false, 1.0, some "dry"⟩,
      some ⟨true, "calm", 0.5⟩⟩)]

def definition : Definition where
  version := "1"
  header := ⟨"press", .inline, "lua", "", [], none⟩
  initial := "open"
  states := places
  transitions := ways
  inputs := SortedMap.empty
  outputs := SortedMap.empty

def press : Automaton where
  version := "1"
  header := ⟨"press", .inline, "lua", "", [], none⟩
  initial := "open"
  states := .ofEntries places
  transitions := .ofEntries ways
  inputs := SortedMap.empty
  outputs := SortedMap.empty
  isDirty := false

def works : Host where
  evaluate body context := .ok (body != "cold" && context.locals.get? "heat" == some (.bool true))
  execute body _ :=
    if body = "warm" then .ok (Effects.none.set "heat" (.bool true))
    else if body = "announce" then .ok (Effects.none.emit "moving" (.bool true))
    else if body = "latch" then .error ⟨body, "jammed"⟩
    else .ok .none

def started : Instance := ((Instance.new "d" press .epoch).perform .epoch .start).1

def handed : List Script :=
  [⟨.execute, "warm", "open"⟩, ⟨.evaluate, "spare", "open"⟩, ⟨.evaluate, "cold", "open"⟩,
    ⟨.evaluate, "hot", "open"⟩, ⟨.evaluate, "calm", "open"⟩, ⟨.execute, "announce", "open"⟩,
    ⟨.execute, "release", "open"⟩, ⟨.execute, "latch", "shut"⟩]

end Jamming

-- If no call of this tick failed, its last one would be for the latch; that one fails.
open Jamming in
theorem called_exact_jamming :
    load definition = .ok press ∧ ∃ log, Runs "d" press started log ∧ started.runState = .running ∧
      started.currentState ≠ errorState ∧ ∃ after report, started.tick works .epoch = .ok (after, report) ∧
        report.calls.map Call.script <+: handed ∧ after.locals = localsAfter works started.locals report.calls ∧
        report.fired = none := by
  have loaded : load definition = .ok press := by decide +kernel
  have runs : Runs "d" press started _ := (Runs.new .epoch).next .start .epoch
  have running : started.runState = .running := by decide +kernel
  have standing : started.currentState ≠ errorState := by decide +kernel
  obtain ⟨state, after, report, known, ticked, _, _, transcript, locals, _, _, _, failed⟩ :=
    called_exact (.loaded loaded) runs running standing works .epoch
  have here : state = { State.plain "open" with code := "warm", onExit := some "release" } :=
    Option.some.inj (known.symm.trans (by decide +kernel))
  have planned : started.scripts works state = handed := by
    rw [here]
    decide +kernel
  have fails : ∃ c ∈ report.calls, c.Fails works := by
    by_contra none
    push Not at none
    have latch : (⟨.execute, "latch", "shut"⟩ : Script) ∈ report.calls.map Call.script := by
      rw [transcript.whole none, planned]
      decide +kernel
    obtain ⟨c, member, same⟩ := List.mem_map.mp latch
    obtain ⟨request, body, context⟩ := c
    obtain ⟨rfl, rfl, _⟩ := Script.mk.inj same
    exact none _ member ⟨⟨"latch", "jammed"⟩, rfl⟩
  exact ⟨loaded, _, runs, running, standing, after, report, ticked, planned ▸ transcript.order, locals,
    failed fails⟩

end Instance

end Chronomata
