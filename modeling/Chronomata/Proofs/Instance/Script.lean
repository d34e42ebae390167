import Chronomata.Proofs.Instance.Turn

-- Scripts that are handed to a host one after the other, up to the first one that fails. What they wrote is
-- what the turn has changed.
namespace Chronomata

-- A script, and the state that it is run for.
structure Script where
  request : Request
  body : String
  state : String
  deriving DecidableEq

namespace Call

def script (c : Call) : Script := ⟨c.request, c.body, c.context.state⟩

-- What the host lets a call write: the effects of an action that succeeds. Guards write nothing.
def effects? (host : Host) (c : Call) : Option Effects :=
  match c.request with
  | .evaluate => none
  | .execute => (host.execute c.body c.context).toOption

end Call

def effectsOf (host : Host) (calls : List Call) : List Effects := calls.filterMap (·.effects? host)

-- Values after changes were made to them, one after the other.
def Values.overwritten (values : Values) (changes : List Values) : Values :=
  changes.foldl (fun values change => values.insertAll change.entries) values

-- The values that calls leave in variables.
def localsAfter (host : Host) (locals : Values) (calls : List Call) : Values :=
  locals.overwritten ((effectsOf host calls).map (·.locals))

-- The values that calls leave in outputs.
def outputsAfter (host : Host) (outputs : Values) (calls : List Call) : Values :=
  outputs.overwritten ((effectsOf host calls).map (·.outputs))

-- How calls come of scripts: in their order, all of them unless one fails, and none behind one that fails.
-- Every call is shown the cycle and the inputs of the instance, and the variables as they are by then.
structure Transcript (i : Instance) (host : Host) (locals : Values) (scripts : List Script)
    (calls : List Call) : Prop where
  order : calls.map Call.script <+: scripts
  whole : (∀ c ∈ calls, ¬ c.Fails host) → calls.map Call.script = scripts
  stops : ∀ before c rest, calls = before ++ c :: rest → c.Fails host → rest = []
  sees : ∀ before c rest, calls = before ++ c :: rest →
    c.context = ⟨i.automaton.id, c.script.state, i.cycle, i.inputs, localsAfter host locals before⟩

namespace Turn

-- A turn after a call that was answered.
def answered (host : Host) (turn : Turn) (c : Call) : Turn :=
  match c.effects? host with
  | some effects => (turn.note c).apply effects
  | none => turn.note c

end Turn

def Instance.call (i : Instance) (turn : Turn) (s : Script) : Call :=
  ⟨s.request, s.body, i.context s.state turn⟩

-- Handing scripts to the host, up to the first one that fails.
inductive Carried (i : Instance) (host : Host) : Turn → List Script → Bool → Turn → Prop where
  | done {turn : Turn} : Carried i host turn [] true turn
  | failed {turn : Turn} {s : Script} {rest : List Script} (fails : (i.call turn s).Fails host) :
      Carried i host turn (s :: rest) false (turn.note (i.call turn s))
  | next {turn after : Turn} {s : Script} {rest : List Script} {whole : Bool}
      (passes : ¬ (i.call turn s).Fails host)
      (later : Carried i host (turn.answered host (i.call turn s)) rest whole after) :
      Carried i host turn (s :: rest) whole after

variable {α β : Type} {i : Instance} {host : Host} {turn after middle : Turn}
  {scripts scripts' : List Script} {whole : Bool}

theorem Call.effects?_of_fails {c : Call} (fails : c.Fails host) : c.effects? host = none := by
  obtain ⟨request, body, context⟩ := c
  cases request with
  | evaluate => rfl
  | execute =>
    obtain ⟨cause, answer⟩ := fails
    simp [effects?, answer, Except.toOption]

theorem localsAfter_append (locals : Values) (calls later : List Call) :
    localsAfter host locals (calls ++ later) =
      localsAfter host (localsAfter host locals calls) later := by
  simp [localsAfter, effectsOf, Values.overwritten]

theorem outputsAfter_append (outputs : Values) (calls later : List Call) :
    outputsAfter host outputs (calls ++ later) =
      outputsAfter host (outputsAfter host outputs calls) later := by
  simp [outputsAfter, effectsOf, Values.overwritten]

-- One call changes a turn by what it writes.
theorem Turn.answered_eq (host : Host) (turn : Turn) (c : Call) :
    turn.answered host c =
      ⟨localsAfter host turn.locals [c], outputsAfter host turn.outputs [c],
        outputsAfter host turn.emitted [c], turn.calls ++ [c]⟩ := by
  unfold answered localsAfter outputsAfter effectsOf
  cases written : c.effects? host with
  | none => simp [written, Values.overwritten, note]
  | some effects => simp [written, Values.overwritten, note, apply]

-- So do many of them.
theorem foldl_answered (turn : Turn) (calls : List Call) :
    calls.foldl (Turn.answered host) turn =
      ⟨localsAfter host turn.locals calls, outputsAfter host turn.outputs calls,
        outputsAfter host turn.emitted calls, turn.calls ++ calls⟩ := by
  induction calls generalizing turn with
  | nil => simp [localsAfter, outputsAfter, effectsOf, Values.overwritten]
  | cons c rest ih =>
    rw [List.foldl_cons, ih, Turn.answered_eq]
    simp only [← localsAfter_append, ← outputsAfter_append, List.append_assoc, List.singleton_append]

theorem Turn.answered_of_fails {c : Call} (fails : c.Fails host) :
    turn.answered host c = turn.note c := by
  rw [answered, Call.effects?_of_fails fails]

theorem Transcript.nil {locals : Values} : Transcript i host locals [] [] := by
  refine ⟨List.prefix_rfl, fun _ => rfl, ?_, ?_⟩
  · intro before c rest none
    simp at none
  · intro before c rest none
    simp at none

theorem Transcript.failed {s : Script} (fails : (i.call turn s).Fails host) :
    Transcript i host turn.locals (s :: scripts) [i.call turn s] := by
  have alone : ∀ {before c rest}, [i.call turn s] = before ++ c :: rest →
      before = [] ∧ i.call turn s = c ∧ rest = [] := by
    intro before c rest split
    cases before with
    | nil => exact ⟨rfl, by simpa using split⟩
    | cons head tail => simp at split
  refine ⟨⟨scripts, rfl⟩, ?_, ?_, ?_⟩
  · intro passes
    exact absurd fails (passes _ (List.mem_singleton_self _))
  · intro before c rest split _
    exact (alone split).2.2
  · intro before c rest split
    obtain ⟨rfl, rfl, _⟩ := alone split
    rfl

theorem Transcript.next {s : Script} {calls : List Call} (passes : ¬ (i.call turn s).Fails host)
    (later : Transcript i host (turn.answered host (i.call turn s)).locals scripts calls) :
    Transcript i host turn.locals (s :: scripts) (i.call turn s :: calls) := by
  refine ⟨?_, ?_, ?_, ?_⟩
  · exact List.prefix_cons_inj s |>.mpr later.order
  · intro pass
    exact congrArg (s :: ·) (later.whole fun c member => pass c (List.mem_cons_of_mem _ member))
  · intro before c rest split fails
    cases before with
    | nil =>
      obtain ⟨rfl, rfl⟩ := List.cons.inj split
      exact absurd fails passes
    | cons head tail => exact later.stops tail c rest (List.cons.inj split).2 fails
  · intro before c rest split
    cases before with
    | nil =>
      obtain ⟨rfl, rfl⟩ := List.cons.inj split
      rfl
    | cons head tail =>
      obtain ⟨rfl, behind⟩ := List.cons.inj split
      have shown := later.sees tail c rest behind
      rw [Turn.answered_eq, ← localsAfter_append] at shown
      exact shown

namespace Carried

theorem append (first : Carried i host turn scripts true middle)
    (second : Carried i host middle scripts' whole after) :
    Carried i host turn (scripts ++ scripts') whole after := by
  generalize ended : true = passed at first
  induction first with
  | done => exact second
  | failed fails => cases ended
  | next passes _ ih => exact .next passes (ih second ended)

-- Behind a script that fails nothing is handed over.
theorem append_of_failed (first : Carried i host turn scripts false after)
    (scripts' : List Script) : Carried i host turn (scripts ++ scripts') false after := by
  generalize ended : false = passed at first
  induction first with
  | done => cases ended
  | failed fails => exact .failed fails
  | next passes _ ih => exact .next passes (ih ended)

-- The calls that were made are a transcript, and the turn is as they left it.
theorem transcript (carried : Carried i host turn scripts whole after) :
    ∃ calls, Transcript i host turn.locals scripts calls ∧
      after = calls.foldl (Turn.answered host) turn ∧
      (whole = true ↔ ∀ c ∈ calls, ¬ c.Fails host) := by
  induction carried with
  | done => exact ⟨[], .nil, rfl, by simp⟩
  | @failed turn s rest fails =>
    refine ⟨[i.call turn s], .failed fails, ?_, ?_⟩
    · exact (Turn.answered_of_fails fails).symm
    · simp [fails]
  | @next turn after s rest whole passes _ ih =>
    obtain ⟨calls, written, left, ended⟩ := ih
    refine ⟨i.call turn s :: calls, .next passes written, left, ?_⟩
    rw [ended, List.forall_mem_cons]
    simp [passes]

-- Guards leave the variables as they are.
theorem locals_of_evaluate (carried : Carried i host turn scripts whole after)
    (guards : ∀ s ∈ scripts, s.request = .evaluate) : after.locals = turn.locals := by
  induction carried with
  | done => rfl
  | failed fails => rfl
  | @next turn after s rest whole passes _ ih =>
    obtain ⟨guard, guards⟩ := List.forall_mem_cons.mp guards
    have kept : (turn.answered host (i.call turn s)).locals = turn.locals := by
      unfold Turn.answered Call.effects?
      rw [show (i.call turn s).request = .evaluate from guard]
      rfl
    exact (ih guards).trans kept

end Carried

-- A part of a turn hands these scripts over, and answers so when none of them fails.
inductive Recites (i : Instance) (host : Host) (turn : Turn) (scripts : List Script) (answer : α) :
    Except Fault α × Turn → Prop where
  | passed {after : Turn} (carried : Carried i host turn scripts true after) :
      Recites i host turn scripts answer (.ok answer, after)
  | failed {after : Turn} {fault : Fault} (carried : Carried i host turn scripts false after) :
      Recites i host turn scripts answer (.error fault, after)

namespace Recites

variable {part : TurnM α} {next : α → TurnM β} {answer : α} {answer' : β}

theorem pure : Recites i host turn [] answer ((Pure.pure answer : TurnM α).run turn) := .passed .done

theorem bind (first : Recites i host turn scripts answer (part.run turn))
    (second : ∀ after, Carried i host turn scripts true after →
      Recites i host after scripts' answer' ((next answer).run after)) :
    Recites i host turn (scripts ++ scripts') answer' ((part >>= next).run turn) := by
  rw [run_bind]
  generalize part.run turn = outcome at first
  cases first with
  | failed carried => exact .failed (carried.append_of_failed scripts')
  | @passed middle carried =>
    have behind := second middle carried
    show Recites i host turn (scripts ++ scripts') answer' ((next answer).run middle)
    generalize (next answer).run middle = outcome at behind ⊢
    cases behind with
    | passed later => exact .passed (carried.append later)
    | failed later => exact .failed (carried.append later)

-- The part has changed what its calls wrote; it answers when none of them failed, and else ends with a fault.
theorem transcript {outcome : Except Fault α}
    (recites : Recites i host turn scripts answer (outcome, after)) :
    ∃ calls, Transcript i host turn.locals scripts calls ∧
      after = calls.foldl (Turn.answered host) turn ∧
      ((∀ c ∈ calls, ¬ c.Fails host) → outcome = .ok answer) ∧
      ((∃ c ∈ calls, c.Fails host) → ∃ fault, outcome = .error fault) := by
  cases recites with
  | passed carried =>
    obtain ⟨calls, written, left, ended⟩ := carried.transcript
    refine ⟨calls, written, left, fun _ => rfl, ?_⟩
    rintro ⟨c, member, fails⟩
    exact absurd fails (ended.mp rfl c member)
  | @failed _ fault carried =>
    obtain ⟨calls, written, left, ended⟩ := carried.transcript
    refine ⟨calls, written, left, ?_, fun _ => ⟨fault, rfl⟩⟩
    intro passes
    cases ended.mpr passes

end Recites

end Chronomata
