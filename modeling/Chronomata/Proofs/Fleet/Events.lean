import Chronomata.Proofs.Fleet.Layout
import Chronomata.Snapshot.Notation

-- What events tell: the moves of the run states of instances, and the connections of devices in turn.
namespace Chronomata

-- A change of the run state of an instance that is asked for by name.
inductive Move where
  | start
  | pause
  | resume
  | stop
  deriving DecidableEq

namespace Move

def sources : Move → List RunState
  | start => [.stopped]
  | pause => [.running]
  | resume => [.paused]
  | stop => [.running, .paused]

def target : Move → RunState
  | start | resume => .running
  | pause => .paused
  | stop => .stopped

-- What the lifecycle allows.
def allowed? (m : Move) (state : RunState) : Option RunState :=
  if m.sources.contains state then some m.target else none

def action : Move → String
  | start => "start"
  | pause => "pause"
  | resume => "resume"
  | stop => "stop"

def verb : Move → String
  | start => "started"
  | pause => "paused"
  | resume => "resumed"
  | stop => "stopped"

def all : List Move := [start, pause, resume, stop]

theorem mem_all (m : Move) : m ∈ all := by cases m <;> decide

theorem verb_injective {m m' : Move} (same : m.verb = m'.verb) : m = m' := by
  cases m <;> cases m' <;> first | rfl | exact absurd same (by decide)

end Move

def Instance.move (m : Move) (now : Instant) (i : Instance) : Except EngineError Instance :=
  i.changeRunState now m.sources m.target m.action

namespace Connection

def other : Connection → Connection
  | connected => disconnected
  | disconnected => connected

theorem mem_all (c : Connection) : c ∈ all := by cases c <;> decide

theorem display_injective {c c' : Connection} (same : c.display = c'.display) : c = c' := by
  cases c <;> cases c' <;> first | rfl | exact absurd same (by decide)

end Connection

namespace Event

-- The move of an instance that an event tells of.
def move? (key : InstanceKey) (e : Event) : Option Move :=
  Move.all.find? fun m => e = lifecycle key m.verb e.timestamp

-- The run state of an instance after an event. A move that is not allowed, and a lifecycle event that tells
-- of no move, lead nowhere.
def follow (key : InstanceKey) (state : RunState) (e : Event) : Option RunState :=
  if e.kind = .lifecycle ∧ e.key = some key then (e.move? key).bind (·.allowed? state) else some state

-- The connection of a device that an event tells of.
def connectionTold? (device : String) (e : Event) : Option Connection :=
  Connection.all.find? fun connection => e = connectionChanged device connection e.timestamp

-- The connection of a device after an event, which must tell of the other connection than the one there was.
def switch (device : String) (connection : Connection) (e : Event) : Option Connection :=
  if e.kind = .connectionChanged ∧ e.device = device then
    (e.connectionTold? device).filter (· = connection.other)
  else some connection

def isFailureOf (key : InstanceKey) (e : Event) : Bool :=
  e.kind == .scriptFailure && e.key == some key

variable {key : InstanceKey} {m : Move} {now : Instant} {device : String} {events : List Event}
  {connection connection' : Connection}

theorem lifecycle_injective {verb verb' : String} (same : lifecycle key verb now = lifecycle key verb' now) :
    verb = verb' := by
  have texts : (lifecycle key verb now).message = (lifecycle key verb' now).message :=
    congrArg Event.message same
  exact String.append_right_inj _ |>.mp texts

-- What an event tells of is found among all that can be told of, if nothing else is told in the same way.
theorem find?_told {α : Type} {all : List α} {a : α} (told : α → Event) (listed : a ∈ all)
    (alone : ∀ b, told a = told b → a = b) : all.find? (fun b => told a = told b) = some a := by
  cases found : all.find? fun b => told a = told b with
  | none => exact absurd (decide_eq_true rfl) (List.find?_eq_none.mp found a listed)
  | some b =>
    have same : told a = told b := of_decide_eq_true (List.find?_eq_some_iff_append.mp found).1
    rw [alone b same]

theorem move?_lifecycle (key : InstanceKey) (m : Move) (now : Instant) :
    (lifecycle key m.verb now).move? key = some m :=
  find?_told (fun m : Move => lifecycle key m.verb now) m.mem_all
    fun _ same => Move.verb_injective (lifecycle_injective same)

theorem follow_lifecycle (key other : InstanceKey) (m : Move) (now : Instant) (state : RunState) :
    follow other state (lifecycle key m.verb now) =
      if other = key then m.allowed? state else some state := by
  unfold follow
  by_cases same : other = key
  · subst same
    rw [if_pos ⟨rfl, rfl⟩, if_pos rfl, move?_lifecycle, Option.bind_some]
  · rw [if_neg same, if_neg]
    rintro ⟨_, about⟩
    exact same (Option.some.inj about).symm

-- The events of the two connections of a device differ.
theorem connectionChanged_injective
    (same : connectionChanged device connection now = connectionChanged device connection' now) :
    connection = connection' := by
  have texts : (connectionChanged device connection now).message =
      (connectionChanged device connection' now).message := congrArg Event.message same
  exact Connection.display_injective (String.append_right_inj _ |>.mp texts)

theorem connectionTold?_connectionChanged (device : String) (connection : Connection) (now : Instant) :
    (connectionChanged device connection now).connectionTold? device = some connection :=
  find?_told (connectionChanged device · now) connection.mem_all fun _ same => connectionChanged_injective same

theorem switch_connectionChanged (differs : connection ≠ connection') (device : String) (now : Instant) :
    switch device connection (connectionChanged device connection' now) = some connection' := by
  have turned : connection' = connection.other := by
    cases connection <;> cases connection' <;> first | rfl | exact absurd rfl differs
  rw [switch, if_pos ⟨rfl, rfl⟩, connectionTold?_connectionChanged, turned]
  exact Option.filter_some_pos (decide_eq_true rfl)

theorem switch_elsewhere {other : String} (elsewhere : other ≠ device)
    (connection connection' : Connection) :
    switch other connection (connectionChanged device connection' now) = some connection :=
  if_neg fun here => elsewhere here.2.symm

theorem foldlM_follow_of_other (state : RunState) (other : ∀ e ∈ events, e.kind ≠ .lifecycle) :
    events.foldlM (follow key) state = some state := by
  induction events with
  | nil => rfl
  | cons e rest ih =>
    rw [List.foldlM_cons, follow, if_neg fun both => other e List.mem_cons_self both.1]
    exact ih fun e member => other e (List.mem_cons_of_mem _ member)

theorem foldlM_switch_of_other (connection : Connection)
    (other : ∀ e ∈ events, e.kind ≠ .connectionChanged) :
    events.foldlM (switch device) connection = some connection := by
  induction events with
  | nil => rfl
  | cons e rest ih =>
    rw [List.foldlM_cons, switch, if_neg fun both => other e List.mem_cons_self both.1]
    exact ih fun e member => other e (List.mem_cons_of_mem _ member)

theorem countP_isFailureOf_of_other (key : InstanceKey) (other : ∀ e ∈ events, e.kind ≠ .scriptFailure) :
    events.countP (isFailureOf key) = 0 := by
  refine List.countP_eq_zero.mpr ?_
  intro e member failure
  rw [isFailureOf, Bool.and_eq_true] at failure
  exact other e member (beq_iff_eq.mp failure.1)

end Event

namespace Fleet

-- A tick of its own changes no run state, and is noted exactly when it brings an instance into the error state.
theorem Placed.tick_tells {key : InstanceKey} {i after : Instance} (placed : Placed key i) {host : Host}
    {now : Instant} {report : Instance.TickReport} (ticked : i.tick host now = .ok (after, report)) :
    after.runState = i.runState ∧ report.snapshot.isFaulted = after.isFaulted ∧
      ((report.events = [] ∧ after.isFaulted = i.isFaulted) ∨
        (∃ message, report.events = [.about key now .error .scriptFailure message]) ∧
          i.isFaulted = false ∧ after.isFaulted = true) := by
  obtain ⟨failed, sound⟩ := placed.sound
  obtain ⟨running, outcome, turn, played, concluded⟩ := Instance.tick_ok ticked
  obtain ⟨_, _, ticked', sound', raised, _, _⟩ :=
    Instance.tick_sound placed.wellFormed sound running host now
  obtain ⟨rfl, rfl⟩ := Prod.mk.inj (Except.ok.inj (ticked'.symm.trans ticked))
  -- The host is not asked in the error state, so neither a fault nor a transition comes of it.
  have standing : (∀ turn, i.playTurn host ≠ .ok (.ok none, turn)) → i.isFaulted = false := by
    intro asked
    refine Bool.eq_false_iff.mpr ?_
    intro fallen
    exact asked i.beginTurn (if_pos fallen)
  obtain ⟨rfl, rfl⟩ := Prod.mk.inj concluded
  refine ⟨by cases outcome with | error => rfl | ok fired => cases fired <;> rfl, rfl, ?_⟩
  cases outcome with
  | error fault =>
    refine .inr ⟨⟨fault.message i.key, by rw [← placed.key_eq]⟩, standing ?_, rfl⟩
    intro turn' rests
    cases played.symm.trans rests
  | ok fired =>
    cases fired with
    | none => exact .inl ⟨rfl, rfl⟩
    | some t =>
      have still : i.isFaulted = false := by
        refine standing ?_
        intro turn' rests
        cases played.symm.trans rests
      have unfailed : ¬ (failed ∨ Instance.Raised host (i.conclude now (.ok (some t)) turn).2) := by
        rintro (fails | raises)
        · rw [Instance.isFaulted, beq_iff_eq.mpr ((sound.isFaulted_iff placed.wellFormed).mpr fails)]
            at still
          cases still
        · obtain ⟨event, noted, _⟩ := raised raises
          cases noted
      refine .inl ⟨rfl, still ▸ ?_⟩
      rw [Instance.isFaulted, beq_eq_false_iff_ne]
      intro fallen
      exact unfailed ((sound'.isFaulted_iff placed.wellFormed).mp fallen)

end Fleet

end Chronomata
