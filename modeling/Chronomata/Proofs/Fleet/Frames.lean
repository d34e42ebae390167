import Chronomata.Proofs.Fleet.Runs

-- A frame that is taken hands over what there is and changes nothing else, so the frames of a run and what is
-- pending behind them are what the run notes when no frame is taken.
namespace Chronomata.Fleet

-- A fleet that noted something else before.
def behind (f : Fleet) (communications : List Communication) (events : List Event) : Fleet :=
  { f with communications := communications ++ f.communications, events := events ++ f.events }

variable {f : Fleet} {now : Instant} {communications : List Communication} {events : List Event}

theorem behind_behind (f : Fleet) (communications communications' : List Communication)
    (events events' : List Event) :
    (f.behind communications events).behind communications' events' =
      f.behind (communications' ++ communications) (events' ++ events) := by
  simp only [behind, List.append_assoc]

theorem takeFrame_behind (f : Fleet) :
    f.takeFrame.1.behind f.takeFrame.2.communications f.takeFrame.2.events = f := by
  simp [takeFrame, behind]

theorem note_behind (event : Event) :
    (f.behind communications events).note event = (f.note event).behind communications events := by
  simp only [note, behind, List.append_assoc]

theorem settle_behind {outcome outcome' : Except EngineError Fleet}
    (same : outcome' = outcome.map (·.behind communications events)) :
    (f.behind communications events).settle outcome' =
      (f.settle outcome).behind communications events := by
  subst same
  cases outcome <;> rfl

theorem changeInstance_behind (key : InstanceKey) (change : Instance → Except EngineError Instance) :
    (f.behind communications events).changeInstance key change =
      (f.changeInstance key change).map (·.behind communications events) := by
  unfold changeInstance
  rw [show (f.behind communications events).instance? key = f.instance? key from rfl]
  cases f.instance? key with
  | none => rfl
  | some i =>
    dsimp only
    cases change i <;> rfl

theorem changeRunState_behind (key : InstanceKey) (verb : String) (now : Instant)
    (change : Instance → Except EngineError Instance) :
    (f.behind communications events).changeRunState key verb now change =
      (f.changeRunState key verb now change).map (·.behind communications events) := by
  unfold changeRunState
  rw [changeInstance_behind]
  cases f.changeInstance key change with
  | error cause => rfl
  | ok after => exact congrArg Except.ok (note_behind _)

theorem deploy_behind (device : String) (a : Automaton) (now : Instant) :
    ((f.behind communications events).deploy device a now).map (·.1) =
      ((f.deploy device a now).map (·.1)).map (·.behind communications events) := by
  unfold deploy
  rw [show (f.behind communications events).devices = f.devices from rfl]
  cases f.devices.get? device with
  | none => rfl
  | some d =>
    dsimp only
    split <;> rfl

theorem setConnection_behind (device : String) (connection : Connection) (now : Instant) :
    (f.behind communications events).setConnection device connection now =
      (f.setConnection device connection now).map (·.behind communications events) := by
  unfold setConnection
  rw [show (f.behind communications events).devices = f.devices from rfl]
  cases f.devices.get? device with
  | none => rfl
  | some d =>
    dsimp only
    split
    · rfl
    · simp only [note, behind, List.append_assoc]
      rfl

-- Steps that do not look at what was noted, one after the other.
theorem foldl_behind {α : Type} {step : Fleet → α → Fleet}
    (each : ∀ f a, step (f.behind communications events) a =
      (step f a).behind communications events) (items : List α) :
    items.foldl step (f.behind communications events) =
      (items.foldl step f).behind communications events := by
  induction items generalizing f with
  | nil => rfl
  | cons head rest ih => rw [List.foldl_cons, List.foldl_cons, each, ih]

theorem start_behind (f : Fleet) (key : InstanceKey) (now : Instant) :
    (f.behind communications events).settle ((f.behind communications events).start key now) =
      (f.settle (f.start key now)).behind communications events :=
  settle_behind (changeRunState_behind key _ now _)

theorem startAll_behind (f : Fleet) (now : Instant) :
    (f.behind communications events).startAll now =
      (f.startAll now).behind communications events :=
  foldl_behind (fun f key => start_behind f key now) _

theorem deliver_behind (f : Fleet) (sender : InstanceKey) (channel : String) (value : Value)
    (receiver : InstanceKey) :
    deliver now sender channel value (f.behind communications events) receiver =
      (deliver now sender channel value f receiver).behind communications events := by
  unfold deliver
  rw [show (f.behind communications events).devices = f.devices from rfl]
  cases f.devices.get? receiver.device with
  | none => rfl
  | some d =>
    dsimp only
    split
    · exact note_behind _
    · unfold setInput
      rw [changeInstance_behind]
      cases f.changeInstance receiver _ <;> simp [behind, Except.map, Except.toOption]

theorem tick_behind (f : Fleet) (host : Host) (now : Instant) :
    ((f.behind communications events).tick host now).1 =
      (f.tick host now).1.behind communications events := by
  have stepped : (f.behind communications events).stepped host now =
      (f.stepped host now).behind communications events := by
    simp only [Fleet.stepped, behind, List.append_assoc]
    rfl
  rw [tick_fleet, tick_fleet, stepped]
  refine foldl_behind (fun f o => ?_) _
  refine foldl_behind (fun f sent => ?_) _
  exact foldl_behind (fun f receiver => deliver_behind f _ _ _ receiver) _

def Operation.takes : Operation → Bool
  | .takeFrame => true
  | _ => false

theorem perform_behind (f : Fleet) {operation : Operation} (keeps : operation.takes = false)
    (now : Instant) :
    (f.behind communications events).perform now operation =
      (f.perform now operation).behind communications events := by
  cases operation with
  | addDevice device => rfl
  | deploy device a ready => exact settle_behind (deploy_behind device a now)
  | start key => exact settle_behind (changeRunState_behind key _ now _)
  | pause key => exact settle_behind (changeRunState_behind key _ now _)
  | resume key => exact settle_behind (changeRunState_behind key _ now _)
  | stop key => exact settle_behind (changeRunState_behind key _ now _)
  | startAll => exact startAll_behind f now
  | setInput key name value => exact settle_behind (changeInstance_behind key _)
  | setConnection device connection => exact settle_behind (setConnection_behind device connection now)
  | tick host => exact tick_behind f host now
  | takeFrame => cases keeps

-- What the operations of a run answer with, in order.
def along {α : Type} (answer : Fleet → Entry → Option α) (f : Fleet) : List Entry → List α
  | [] => []
  | entry :: rest =>
    (answer f entry).toList ++ (f.perform entry.now entry.operation).along answer rest

def frames (f : Fleet) (entries : List Entry) : List Capture :=
  f.along (fun f entry => if entry.operation.takes then some f.takeFrame.2 else none) entries

def reports (f : Fleet) (entries : List Entry) : List TickReport :=
  f.along (fun f entry => match entry.operation with
    | .tick host => some (f.tick host entry.now).2
    | _ => none) entries

-- The events of all frames that were taken, and then those that no frame has taken yet.
def log (f : Fleet) (entries : List Entry) : List Event :=
  (f.frames entries).flatMap (·.events) ++ (f.run entries).events

-- The same run, and no frame is taken.
def untaken (entries : List Entry) : List Entry := entries.filter fun e => !e.operation.takes

theorem untaken_keeps (entries : List Entry) : ∀ e ∈ untaken entries, e.operation.takes = false := by
  intro e member
  simpa using (List.mem_filter.mp member).2

theorem run_behind (f : Fleet) {entries : List Entry}
    (keeps : ∀ e ∈ entries, e.operation.takes = false) :
    (f.behind communications events).run entries =
      (f.run entries).behind communications events := by
  induction entries generalizing f with
  | nil => rfl
  | cons e rest ih =>
    show ((f.behind communications events).perform e.now e.operation).run rest = _
    rw [perform_behind f (keeps e List.mem_cons_self), ih _ fun e member =>
      keeps e (List.mem_cons_of_mem _ member)]
    rfl

theorem run_untaken (f : Fleet) (entries : List Entry) :
    f.run (untaken entries) = (f.run entries).behind
      ((f.frames entries).flatMap (·.communications)) ((f.frames entries).flatMap (·.events)) := by
  induction entries generalizing f with
  | nil => rfl
  | cons e rest ih =>
    obtain ⟨operation, now⟩ := e
    cases takes : operation.takes with
    | false =>
      simp only [untaken, frames, along, List.filter_cons, takes, Bool.not_false, if_true,
        Bool.false_eq_true, if_false, Option.toList_none, List.nil_append]
      exact ih _
    | true =>
      cases operation with
      | takeFrame =>
        have handed : (f.takeFrame.1.behind f.takeFrame.2.communications f.takeFrame.2.events).run
            (untaken rest) = _ := run_behind f.takeFrame.1 (untaken_keeps rest)
        rw [takeFrame_behind] at handed
        refine handed.trans ?_
        rw [ih, behind_behind]
        rfl
      | _ => cases takes

theorem reports_behind (f : Fleet) {entries : List Entry}
    (keeps : ∀ e ∈ entries, e.operation.takes = false) :
    (f.behind communications events).reports entries = f.reports entries := by
  induction entries generalizing f with
  | nil => rfl
  | cons e rest ih =>
    have later := ih (f.perform e.now e.operation) fun e member =>
      keeps e (List.mem_cons_of_mem _ member)
    rw [← perform_behind f (keeps e List.mem_cons_self)] at later
    exact congrArg₂ List.append rfl later

theorem reports_cons (f : Fleet) (e : Entry) (rest : List Entry) :
    f.reports (e :: rest) = f.reports [e] ++ (f.perform e.now e.operation).reports rest := by
  simp only [reports, along, List.append_nil]

-- Ticks report the same, whether or not frames are taken.
theorem reports_untaken (f : Fleet) (entries : List Entry) :
    f.reports (untaken entries) = f.reports entries := by
  induction entries generalizing f with
  | nil => rfl
  | cons e rest ih =>
    obtain ⟨operation, now⟩ := e
    cases operation with
    | takeFrame =>
      have handed : (f.takeFrame.1.behind f.takeFrame.2.communications f.takeFrame.2.events).reports
          (untaken rest) = _ := reports_behind f.takeFrame.1 (untaken_keeps rest)
      rw [takeFrame_behind] at handed
      exact handed.trans (ih _)
    | _ => exact congrArg₂ List.append rfl (ih _)

theorem log_untaken (f : Fleet) (entries : List Entry) :
    f.log entries = (f.run (untaken entries)).events := by
  rw [run_untaken]
  rfl

end Chronomata.Fleet
