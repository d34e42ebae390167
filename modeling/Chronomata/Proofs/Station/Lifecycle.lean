import Chronomata.Proofs.Fleet.Tick
import Chronomata.Proofs.Station.RunStates

-- The recordings of a station tell that instances are started, and that they are stopped at the end. An
-- instance that is paused leaves no trace, and neither does a message that is lost.
namespace Chronomata

def Event.isLifecycleOf (key : InstanceKey) (e : Event) : Bool := e.kind == .lifecycle && e.key == some key

theorem Event.countP_filter_lifecycle (seen : List Event) (key : InstanceKey) :
    (seen.filter (·.kind == .lifecycle)).countP (isLifecycleOf key) = seen.countP (isLifecycleOf key) := by
  rw [List.countP_filter]
  refine List.countP_congr ?_
  intro e _
  simp only [isLifecycleOf, Bool.and_eq_true]
  exact and_iff_left_of_imp And.left

-- Among the news that are lifecycle events only, there is no other news.
theorem Event.lifecycle_of_news {seen news : List Event} (told : seen.filter isNews = news)
    (lifecycle : ∀ e ∈ news, e.kind = .lifecycle) :
    seen.filter (·.kind == .lifecycle) = news ∧ ∀ e ∈ seen, e.kind ≠ .messageDropped := by
  refine ⟨?_, ?_⟩
  · calc seen.filter (·.kind == .lifecycle)
        = (seen.filter isNews).filter (·.kind == .lifecycle) := by
          rw [List.filter_filter]
          refine List.filter_congr ?_
          intro e _
          by_cases same : e.kind = .lifecycle <;> simp [isNews, same]
      _ = news := by
          rw [told, List.filter_eq_self]
          exact fun e member => beq_iff_eq.mpr (lifecycle e member)
  · intro e member lost
    have member : e ∈ seen.filter isNews := List.mem_filter.mpr ⟨member, by simp [isNews, lost]⟩
    have other := lifecycle e (told ▸ member)
    rw [lost] at other
    cases other

namespace Station

variable {s after : Station} {now : Instant} {key : InstanceKey}

-- An instance comes to be, or its run state becomes another one.
def Passage.moves (key : InstanceKey) (p : Passage) : Bool := p.after.runState? key ≠ p.before.runState? key

def Operation.turns (key : InstanceKey) : Operation → Bool
  | .pause other | .resume other => other == key
  | _ => false

-- An instance is paused or resumed.
def Passage.turns (key : InstanceKey) (p : Passage) : Bool := p.operation.turns key && p.moves key

theorem Passage.not_moves {p : Passage} (same : p.after.runState? key = p.before.runState? key) :
    p.moves key = false := by
  simp [moves, same]

theorem countP_lifecycle (keys : List InstanceKey) (verb : String) (now : Instant) (key : InstanceKey) :
    (keys.map (Event.lifecycle · verb now)).countP (Event.isLifecycleOf key) = keys.count key := by
  rw [List.countP_map]
  refine List.countP_congr ?_
  intro other _
  simp [Event.isLifecycleOf, Event.lifecycle, Event.about]

theorem runState?_eq_none : s.runState? key = none ↔ key ∉ s.instances.keys := by
  rw [runState?, Option.map_eq_none_iff, SortedMap.mem_keys, not_exists, Option.eq_none_iff_forall_ne_some]

theorem spawn_moves_told {device : String} {a : Automaton} (key : InstanceKey) :
    ((Passage.mk s (.spawn device a) now).moves key).toNat =
      (Passage.mk s (.spawn device a) now).told.countP (Event.isLifecycleOf key) := by
  cases spawned : s.spawn device a now with
  | error cause =>
    simp [Passage.moves, Passage.after, perform, Passage.told, spawned, orStay, Except.map, Except.toOption]
  | ok both =>
    obtain ⟨after, new⟩ := both
    have absent : s.runState? new = none := congrArg (Option.map _) (spawn_ok spawned).1
    have becomes : (Passage.mk s (.spawn device a) now).after = after := by
      simp only [Passage.after, perform, spawned]
      rfl
    have told : (Passage.mk s (.spawn device a) now).told = [new].map (.lifecycle · "started" now) := by
      simp only [Passage.told, spawned, List.map_singleton]
    rw [told, countP_lifecycle, Passage.moves, becomes, spawn_runState? spawned]
    by_cases same : key = new
    · subst same
      simp [absent]
    · simp [same, Ne.symm same]

theorem command_moves_told {sources : List RunState} {target : RunState} {action : String}
    {operation : Operation} {other : InstanceKey}
    (commands : s.perform now operation =
      s.orStay (s.command other (·.changeRunState now sources target action)))
    (quiet : (Passage.mk s operation now).told = []) (turns : operation.turns key = (other == key)) :
    ((Passage.mk s operation now).moves key).toNat =
      (Passage.mk s operation now).told.countP (Event.isLifecycleOf key) +
        ((Passage.mk s operation now).turns key).toNat := by
  rw [quiet, List.countP_nil, Nat.zero_add, Passage.turns, turns]
  by_cases same : other = key
  · rw [same, beq_self_eq_true, Bool.true_and]
  · have still : (Passage.mk s operation now).moves key = false := Passage.not_moves <| by
      show (s.perform now operation).runState? key = s.runState? key
      rw [commands, command_runState?, if_neg (Ne.symm same)]
    rw [still, Bool.and_false]

theorem shutdown_moves_told (alive : s.runState? key ≠ some .stopped) :
    ((Passage.mk s .shutdown now).moves key).toNat =
      (Passage.mk s .shutdown now).told.countP (Event.isLifecycleOf key) := by
  show (decide ((s.shutdown now).runState? key ≠ s.runState? key)).toNat =
    (s.instances.keys.map (.lifecycle · "stopped" now)).countP (Event.isLifecycleOf key)
  rw [countP_lifecycle, shutdown_runState?]
  cases found : s.runState? key with
  | none => simp [List.count_eq_zero_of_not_mem (runState?_eq_none.mp found)]
  | some state =>
    have listed : key ∈ s.instances.keys := by
      by_contra absent
      cases found.symm.trans (runState?_eq_none.mpr absent)
    rw [List.count_eq_one_of_mem s.instances.keys_nodup listed]
    have different : state ≠ .stopped := fun stopped => alive (stopped ▸ found)
    simp [Ne.symm different]

-- What changes the run state of an instance tells of it, unless it pauses or resumes the instance.
theorem Passage.moves_told {p : Passage} (living : p.before.Living) (key : InstanceKey) :
    (p.moves key).toNat = p.told.countP (Event.isLifecycleOf key) + (p.turns key).toNat := by
  obtain ⟨s, operation, now⟩ := p
  cases quiet : operation.isSteady with
  | true =>
    have still := Passage.not_moves (p := ⟨s, operation, now⟩)
      ((perform_steady s now quiet living.filed).2 key)
    rw [turns, still, Bool.and_false]
    cases operation <;> first | rfl | cases quiet
  | false =>
    cases operation with
    | spawn device a => exact spawn_moves_told key
    | pause other => exact command_moves_told rfl rfl rfl
    | resume other => exact command_moves_told rfl rfl rfl
    | shutdown => exact shutdown_moves_told (living.alive key)
    | _ => cases quiet

theorem Runs.living {log : List Passage} (runs : Runs s log)
    (works : ∀ p ∈ log, p.operation ≠ .shutdown) : s.Living := by
  induction runs with
  | new host gateway tickInterval =>
    refine ⟨?_, ?_⟩
    · intro key i there
      cases there
    · intro key stopped
      cases stopped
  | @next s log _ operation now _ _ ih =>
    obtain ⟨earlier, last⟩ := List.forall_mem_append.mp works
    exact Passage.living (p := ⟨s, operation, now⟩) (ih earlier) (last _ List.mem_cons_self)

theorem Runs.all_living {log : List Passage} (runs : Runs s log) : ∀ p ∈ log, p.before.Living := by
  induction runs with
  | new => exact List.forall_mem_nil _
  | next before operation now _ works ih =>
    exact List.forall_mem_append.mpr ⟨ih, List.forall_mem_singleton.mpr (before.living works)⟩

theorem countP_moves {log : List Passage} (living : ∀ p ∈ log, p.before.Living) (key : InstanceKey) :
    log.countP (·.moves key) =
      (log.flatMap Passage.told).countP (Event.isLifecycleOf key) + log.countP (·.turns key) := by
  induction log with
  | nil => rfl
  | cons p rest ih =>
    obtain ⟨first, others⟩ := List.forall_mem_cons.mp living
    have told := p.moves_told first key
    rw [List.countP_cons, List.countP_cons, List.flatMap_cons, List.countP_append, ih others]
    simp only [Bool.toNat, cond_eq_ite] at told
    omega

theorem Passage.told_isLifecycle (p : Passage) : ∀ e ∈ p.told, e.kind = .lifecycle := by
  intro e member
  unfold Passage.told at member
  split at member
  · split at member
    · rw [List.mem_singleton.mp member]
      rfl
    · cases member
  · obtain ⟨key, _, rfl⟩ := List.mem_map.mp member
    rfl
  · cases member

-- A session that records since it was opened tells of every instance that comes to be and, when the station is
-- shut down, that it stops; each of these is told once. Of an instance that is paused or resumed it tells
-- nothing, and so it falls short of the changes by exactly these. Of a message that is lost it tells nothing
-- either.
theorem told_exact {before since : List Passage} {opening : Passage} {id : SessionId}
    (runs : Runs s (before ++ opening :: since)) (opens : opening.Opens id)
    (own : ∀ p ∈ since, p.operation.touches id = false) :
    ∃ lines take session, Logbook.Runs s.logbook lines ∧
      TimeTravel.take? id (Logbook.lines lines) = some take ∧
      s.travel.session? id = some session ∧ session.frames = take.kept ∧
      (session.isRecording = true → ∀ seen,
        seen = take.recorded.flatMap (·.events) ++ (s.logbook.journal.queue id).events →
        seen.filter (·.kind == .lifecycle) = since.flatMap Passage.told ∧
        (∀ key, since.countP (·.moves key) =
          seen.countP (Event.isLifecycleOf key) + since.countP (·.turns key)) ∧
        ∀ e ∈ seen, e.kind ≠ .messageDropped) := by
  obtain ⟨earlier, options, more, logged, untouched, told⟩ := runs.since opens own
  have watched := logged.watched untouched
  obtain ⟨take, session, taken, found, recording, running, _⟩ := logged.sound.accounts id _ watched
  obtain ⟨_, found', keeps⟩ := (TimeTravel.runs_sound logged.travels).kept taken
  cases found.symm.trans found'
  refine ⟨_, take, session, logged, taken, found, keeps.frames, ?_⟩
  rintro records seen rfl
  have isOpen := recording.symm.trans records
  obtain ⟨q, queued, whole⟩ := running isOpen
  rw [Logbook.foldl_watch_of_open rfl (Logbook.unstopped_of_open isOpen)] at whole
  rw [Journal.queue_of_queue? queued]
  have events : take.recorded.flatMap (·.events) ++ q.events = (Logbook.posted more).events :=
    congrArg Queue.events whole
  rw [← events] at told
  have lifecycle : ∀ e ∈ since.flatMap Passage.told, e.kind = .lifecycle := by
    intro e member
    obtain ⟨p, _, member⟩ := List.mem_flatMap.mp member
    exact p.told_isLifecycle e member
  obtain ⟨all, undropped⟩ := Event.lifecycle_of_news told lifecycle
  refine ⟨all, ?_, undropped⟩
  intro key
  have living : ∀ p ∈ since, p.before.Living := by
    intro p member
    exact runs.all_living p (by simp [member])
  rw [countP_moves living, ← all, Event.countP_filter_lifecycle]

def passages : Station → List Operation → List Passage
  | _, [] => []
  | s, operation :: rest => ⟨s, operation, .epoch⟩ :: passages (s.perform .epoch operation) rest

theorem runs_passages {log : List Passage} (runs : Runs s log) {operations : List Operation}
    (fresh : ∀ p ∈ passages s operations, p.operation.Fresh p.before.travel)
    (works : ∀ p ∈ log ++ passages s operations, p.operation ≠ .shutdown) :
    Runs (operations.foldl (·.perform .epoch) s) (log ++ passages s operations) := by
  induction operations generalizing s log with
  | nil => exact (List.append_nil log).symm ▸ runs
  | cons operation rest ih =>
    obtain ⟨first, others⟩ := List.forall_mem_cons.mp fresh
    have next := runs.next operation .epoch first fun p member => works p (List.mem_append_left _ member)
    have step : log ++ passages s (operation :: rest) =
        log ++ [⟨s, operation, .epoch⟩] ++ passages (s.perform .epoch operation) rest :=
      (List.append_assoc log [_] _).symm
    rw [step] at works ⊢
    exact ih next others works

-- A bell rings for a door that cannot be reached, and is paused.
namespace Ringing

open Fleet.Ringing

def place : InstanceKey := ⟨"a", "bell"⟩

def porch : InstanceKey := ⟨"b", "door"⟩

def start : Station := .new ringer .empty (.ofMilliseconds 100)

def story : List Operation :=
  [.startRecording ⟨7⟩ .default, .spawn "a" bell, .spawn "b" door,
    .gateway (·.setStatus "b" .disconnected), .advance 0, .pause place, .capture ⟨7⟩]

def rung : Station := story.foldl (·.perform .epoch) start

end Ringing

open Ringing in
theorem told_exact_ringing :
    rung.runState? place = some .paused ∧ rung.calls.length = 1 ∧ rung.gateway.waiting.get? porch = some [] ∧
      ∃ lines take seen, Logbook.Runs rung.logbook lines ∧
        TimeTravel.take? ⟨7⟩ (Logbook.lines lines) = some take ∧
        seen = take.recorded.flatMap (·.events) ++ (rung.logbook.journal.queue ⟨7⟩).events ∧
        seen.filter (·.kind == .lifecycle) =
          [.lifecycle place "started" .epoch, .lifecycle porch "started" .epoch] ∧
        seen.countP (Event.isLifecycleOf place) = 1 ∧ ∀ e ∈ seen, e.kind ≠ .messageDropped := by
  have fresh : ∀ p ∈ passages start story, p.operation.Fresh p.before.travel := by
    simp only [story, passages, List.forall_mem_cons]
    exact ⟨rfl, trivial, trivial, trivial, trivial, trivial, trivial, List.forall_mem_nil _⟩
  have works : ∀ p ∈ passages start story, p.operation ≠ .shutdown := by
    simp [story, passages]
  have own : ∀ p ∈ (passages start story).drop 1, p.operation.touches ⟨7⟩ = false := by
    simp [story, passages, Operation.touches]
  have runs : Runs rung ([] ++ ⟨start, .startRecording ⟨7⟩ .default, .epoch⟩ ::
      (passages start story).drop 1) := runs_passages (.new _ _ _) fresh works
  have opens : (⟨start, .startRecording ⟨7⟩ .default, .epoch⟩ : Passage).Opens ⟨7⟩ := ⟨_, _, rfl, rfl⟩
  obtain ⟨lines, take, session, logged, taken, found, _, tells⟩ := told_exact runs opens own
  have records : session.isRecording = true := by
    have open7 : (rung.travel.session? ⟨7⟩).map (·.isRecording) = some true := by decide +kernel
    rw [show rung.travel.session? ⟨7⟩ = some session from found] at open7
    exact Option.some.inj open7
  obtain ⟨all, counts, undropped⟩ := tells records _ rfl
  -- It is started and paused: two changes, one of which is a pause.
  have changes : ((passages start story).drop 1).countP (·.moves place) = 2 := by decide +kernel
  have pauses : ((passages start story).drop 1).countP (·.turns place) = 1 := by decide +kernel
  have count := counts place
  rw [changes, pauses] at count
  refine ⟨by decide +kernel, by decide +kernel, by decide +kernel, lines, take, _, logged, taken, rfl, ?_, ?_,
    undropped⟩
  · exact all.trans (by decide +kernel)
  · exact (Nat.succ_inj.mp count).symm

end Station

end Chronomata
