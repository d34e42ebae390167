import Chronomata.CommandLine.Outcome
import Chronomata.Proofs.Fleet.Layout
import Chronomata.Proofs.Fleet.Solo
import Chronomata.Proofs.TimeTravel.Exports

-- Runs without a network. Such a run is one instance that is started and ticked; when it is recorded, the
-- archive shows the instance after every one of the last ticks, as many as the session keeps.
namespace Chronomata

namespace TimeTravel

-- One session that no one has played back.
def reel (s : Session) : TimeTravel := ⟨⟨.single s.id s⟩, .single s.id .start⟩

variable {s : Session} {now : Instant}

theorem session?_reel (s : Session) : (reel s).session? s.id = some s := SortedMap.get?_single _ _

-- What becomes of the session replaces it.
theorem store_reel {s' : Session} (same : s'.id = s.id) :
    (⟨(reel s).recorder.store s', (reel s).playheads⟩ : TimeTravel) = reel s' := by
  unfold reel Recorder.store
  rw [same, SortedMap.insert_single]

theorem startRecording_reel {options : RecordingOptions} (room : options.maxSnapshots ≠ 0)
    (paced : options.interval.isZero = false) (id : SessionId) :
    empty.startRecording id options now = .ok (reel (.new id options now)) := by
  simp only [startRecording, Recorder.start, room, paced, if_false, Bool.false_eq_true]
  rfl

theorem capture_reel (records : s.isRecording = true) (content : Capture) (now : Instant) :
    (reel s).capture s.id content now =
      .ok (reel (s.append content now).1, (s.append content now).2) := by
  rw [capture_of_records (session?_reel s) records,
    store_reel (show (s.append content now).1.id = s.id from rfl)]

theorem stopRecording_reel (records : s.isRecording = true) :
    (reel s).stopRecording s.id now = .ok (reel (s.finish now)) := by
  have recording : (reel s).recorder.recording s.id = .ok s :=
    recording_eq_ok_iff.mpr ⟨session?_reel s, records⟩
  unfold stopRecording Recorder.stop
  rw [recording]
  exact congrArg Except.ok (store_reel rfl)

theorem exportSession_reel : (reel s).exportSession s.id now = .ok (.ofSession s now) := by
  have led : (reel s).playheads.get? s.id = some .start := SortedMap.get?_single _ _
  unfold exportSession find
  rw [session?_reel, led]
  rfl

end TimeTravel

theorem Span.isZero_ofMilliseconds {count : UInt64} (some : count ≠ 0) :
    (Span.ofMilliseconds count).isZero = false := by
  have positive : count.toNat ≠ 0 := fun none => some (UInt64.toNat_inj.mp none)
  refine decide_eq_false ?_
  show (count / 1000).toNat * 1000000000 + count.toNat % 1000 * 1000000 ≠ 0
  rw [UInt64.toNat_div]
  show count.toNat / 1000 * 1000000000 + count.toNat % 1000 * 1000000 ≠ 0
  omega

namespace CommandLine

open Fleet TimeTravel

variable {c : Config} {a : Automaton} {clock : Nat → Instant} {session : Option SessionId}
  {f : Fleet} {t : TimeTravel}

-- An instance that is started, and then ticked so many times.
def aged (c : Config) (a : Automaton) (clock : Nat → Instant) : Nat → Instance
  | 0 => ((Instance.new c.device a (clock 0)).perform (clock 0) .start).1
  | number + 1 => ((aged c a clock number).perform (clock (number + 1)) (.tick .literal)).1

theorem aged_start (c : Config) (a : Automaton) (clock : Nat → Instant) :
    (Instance.new c.device a (clock 0)).start (clock 0) = .ok (aged c a clock 0) := rfl

theorem aged_succ {number : Nat} {i : Instance} {report : Instance.TickReport}
    (ticked : (aged c a clock number).tick .literal (clock (number + 1)) = .ok (i, report)) :
    aged c a clock (number + 1) = i := by
  simp only [aged, Instance.perform, ticked]

-- A script that fails ends no run.
theorem aged_runs (wellFormed : a.WellFormed) (clock : Nat → Instant) (number : Nat) :
    Placed ⟨c.device, a.id⟩ (aged c a clock number) ∧
      (aged c a clock number).runState = .running := by
  induction number with
  | zero => exact ⟨(new_placed wellFormed _ _).changeRunState (aged_start c a clock), rfl⟩
  | succ number ih =>
    obtain ⟨placed, running⟩ := ih
    obtain ⟨i, report, ticked, kept⟩ := placed.tick running .literal (clock (number + 1))
    rw [aged_succ ticked]
    exact ⟨kept, (Instance.tick_notes ticked).1.trans running⟩

theorem aged_ticks (wellFormed : a.WellFormed) (clock : Nat → Instant) (number : Nat) :
    ∃ report, (aged c a clock number).tick .literal (clock (number + 1)) =
      .ok (aged c a clock (number + 1), report) := by
  obtain ⟨placed, running⟩ := aged_runs (c := c) wellFormed clock number
  obtain ⟨i, report, ticked, _⟩ := placed.tick running .literal (clock (number + 1))
  exact ⟨report, aged_succ ticked ▸ ticked⟩

-- A session to which the instance was shown after each of its first ticks.
structure Shown (c : Config) (a : Automaton) (clock : Nat → Instant) (passed : Nat) (s : Session) :
    Prop where
  records : s.isRecording = true
  kept : ∃ take, Keeps take s ∧ take.limit = c.maxSnapshots ∧
    take.captures.map (·.content.executions) =
      (List.range' 1 passed).map fun number => [(aged c a clock number).latest]

theorem new_shown (room : c.maxSnapshots ≠ 0) (id : SessionId) (now : Instant) :
    Shown c a clock 0 (.new id c.recordingOptions now) :=
  ⟨rfl, _, Keeps.new room, rfl, rfl⟩

theorem Shown.append {passed : Nat} {s : Session} (shown : Shown c a clock passed s)
    {content : Capture} (shows : content.executions = [(aged c a clock (passed + 1)).latest])
    (now : Instant) : Shown c a clock (passed + 1) (s.append content now).1 := by
  obtain ⟨take, keeps, limit, executions⟩ := shown.kept
  refine ⟨shown.records, _, keeps.append content now, limit, ?_⟩
  rw [Take.add, List.map_append, executions, List.range'_concat, List.map_append, List.map_singleton,
    List.map_singleton, shows, Nat.one_mul, Nat.add_comm 1]

theorem captured_length {take : Take} {count : Nat} {executions : Nat → List ExecutionSnapshot}
    (shown : take.captures.map (·.content.executions) = (List.range' 1 count).map executions) :
    take.captures.length = count := by
  simpa only [List.length_map, List.length_range'] using congrArg List.length shown

-- All that was captured, before any of it is dropped.
theorem recorded_eq {take : Take} {count : Nat} {executions : Nat → List ExecutionSnapshot}
    (few : count < 2 ^ 64) (shown : take.captures.map (·.content.executions) =
      (List.range' 1 count).map executions) :
    take.recorded.map (fun frame => (frame.number.toNat, frame.executions)) =
      (List.range' 1 count).map fun number => (number, executions number) := by
  have counted := captured_length shown
  refine List.ext_getElem? ?_
  intro place
  have same := congrArg (·[place]?) shown
  simp only [List.getElem?_map] at same
  rw [List.getElem?_map, List.getElem?_map, Take.recorded_get?]
  by_cases inside : place < count
  · rw [List.getElem?_range' inside] at same ⊢
    obtain ⟨captured, found, shows⟩ := Option.map_eq_some_iff.mp same
    have number : (UInt64.ofNat (place + 1)).toNat = 1 + 1 * place := by
      rw [UInt64.toNat_ofNat_of_lt' (Nat.lt_of_le_of_lt inside few)]
      omega
    rw [found]
    exact congrArg some (Prod.ext number shows)
  · rw [List.getElem?_eq_none (by omega), List.getElem?_eq_none (by rw [List.length_range']; omega)]
    rfl

-- What the session holds are the last ticks.
theorem Shown.frames {count : Nat} {s : Session} (shown : Shown c a clock count s)
    (few : count < 2 ^ 64) :
    s.frames.map (fun frame => (frame.number.toNat, frame.executions)) =
      (List.range' (count - min count c.maxSnapshots.toNat + 1)
        (min count c.maxSnapshots.toNat)).map fun number =>
          (number, [(aged c a clock number).latest]) := by
  obtain ⟨take, keeps, limit, executions⟩ := shown.kept
  have counted : take.captures.length = count := captured_length executions
  rw [show s.frames = take.kept from keeps.frames, Take.kept, List.map_drop,
    recorded_eq few executions, ← List.map_drop, List.drop_range', Take.dropped, Take.count, counted, limit]
  congr 2 <;> omega

theorem Shown.last {count : Nat} {s : Session} (shown : Shown c a clock count s)
    (few : count < 2 ^ 64) (room : c.maxSnapshots ≠ 0) (ticked : 0 < count) :
    s.frames.getLast?.map (·.executions) = some [(aged c a clock count).latest] := by
  have positive : c.maxSnapshots.toNat ≠ 0 := fun none => room (UInt64.toNat_inj.mp none)
  obtain ⟨others, kept⟩ : ∃ others, min count c.maxSnapshots.toNat = others + 1 :=
    ⟨min count c.maxSnapshots.toNat - 1, by omega⟩
  have newest : count - (others + 1) + 1 + 1 * others = count := by omega
  have frames := shown.frames few
  rw [kept, List.range'_concat, newest, List.map_append, List.map_singleton] at frames
  have last := congrArg List.getLast? frames
  rw [List.getLast?_map, List.getLast?_concat] at last
  obtain ⟨frame, found, shows⟩ := Option.map_eq_some_iff.mp last
  rw [found]
  exact congrArg some (congrArg Prod.snd shows)

theorem Shown.orderly {count : Nat} {s : Session} (shown : Shown c a clock count s)
    (few : count < 2 ^ 64) : s.Orderly := by
  obtain ⟨take, keeps, _, executions⟩ := shown.kept
  have counted : take.captures.length = count := captured_length executions
  exact keeps.orderly (counted.trans_lt few)

structure Stands (c : Config) (a : Automaton) (clock : Nat → Instant) (session : Option SessionId)
    (passed : Nat) (f : Fleet) (t : TimeTravel) : Prop where
  fleet : ∃ communications events, f = solo (aged c a clock passed) communications events
  shown : ∀ id, session = some id → ∃ s, t = reel s ∧ s.id = id ∧ Shown c a clock passed s

theorem Stands.tickOnce (wellFormed : a.WellFormed) {passed : Nat}
    (stands : Stands c a clock session passed f t) :
    ∃ f' t', tickOnce session (clock (passed + 1)) f t = .ok (f', t') ∧
      Stands c a clock session (passed + 1) f' t' := by
  obtain ⟨communications, events, rfl⟩ := stands.fleet
  obtain ⟨report, ticked⟩ := aged_ticks (c := c) wellFormed clock passed
  unfold CommandLine.tickOnce
  cases session with
  | none =>
    refine ⟨_, t, rfl, ⟨_, _, tick_solo ticked⟩, ?_⟩
    intro id recorded
    cases recorded
  | some id =>
    obtain ⟨s, rfl, rfl, shown⟩ := stands.shown id rfl
    obtain ⟨content, taken, shows⟩ :=
      @takeFrame_solo (aged c a clock (passed + 1)) communications (events ++ report.events)
    simp only [tick_solo ticked, taken, capture_reel shown.records]
    refine ⟨_, _, rfl, ⟨_, _, rfl⟩, ?_⟩
    rintro _ ⟨⟩
    exact ⟨_, rfl, rfl, shown.append shows _⟩

theorem Stands.tickFleet (wellFormed : a.WellFormed) (count : Nat) {passed : Nat}
    (stands : Stands c a clock session passed f t) :
    ∃ f' t', tickFleet session clock count passed f t = .ok (f', t') ∧
      Stands c a clock session (passed + count) f' t' := by
  induction count generalizing passed f t with
  | zero => exact ⟨f, t, rfl, stands⟩
  | succ count ih =>
    obtain ⟨f', t', ticked, after⟩ := stands.tickOnce wellFormed
    rw [CommandLine.tickFleet, ticked]
    rw [show passed + (count + 1) = passed + 1 + count by omega]
    exact ih after

theorem accepted_room (accepted : c.issue? = none) :
    c.capturePeriod ≠ 0 ∧ c.maxSnapshots ≠ 0 := by
  unfold Config.issue? at accepted
  split_ifs at accepted with _ captures room
  exact ⟨captures, room⟩

theorem startSession_shown (accepted : c.issue? = none) (session : Option SessionId)
    (clock : Nat → Instant) : ∃ t, startSession c session (clock 0) = .ok t ∧
      ∀ id, session = some id → ∃ s, t = reel s ∧ s.id = id ∧ Shown c a clock 0 s := by
  obtain ⟨captures, room⟩ := accepted_room accepted
  cases session with
  | none =>
    refine ⟨.empty, rfl, ?_⟩
    intro id recorded
    cases recorded
  | some id =>
    have started := @startRecording_reel (clock 0) c.recordingOptions room
      (Span.isZero_ofMilliseconds captures) id
    refine ⟨_, by rw [startSession, started]; rfl, ?_⟩
    rintro _ ⟨⟩
    exact ⟨_, rfl, rfl, new_shown room id (clock 0)⟩

theorem launch_ok (c : Config) (a : Automaton) (clock : Nat → Instant) : ∃ events,
    launch c a (clock 0) = .ok (solo (aged c a clock 0) [] events, ⟨c.device, a.id⟩) := by
  have started : (solo (Instance.new c.device a (clock 0)) [] []).start ⟨c.device, a.id⟩ (clock 0) =
      .ok (solo (aged c a clock 0) [] [.lifecycle ⟨c.device, a.id⟩ "started" (clock 0)]) :=
    start_solo (aged_start c a clock)
  refine ⟨[.lifecycle ⟨c.device, a.id⟩ "started" (clock 0)], ?_⟩
  unfold launch
  rw [deploy_solo]
  show (Except.bind (start _ _ _) _).mapError _ = _
  rw [started]
  rfl

-- Whatever is recorded, the run gets through all ticks.
theorem runDetached_eq (wellFormed : a.WellFormed) (accepted : c.issue? = none)
    (session : Option SessionId) (count : Nat) (clock : Nat → Instant) :
    ∃ t, (∀ id, session = some id → ∃ s, t = reel s ∧ s.id = id ∧ Shown c a clock count s) ∧
      runDetached c a session count clock =
        (endSession t session (clock (count + 1))).map ((aged c a clock count).latest, ·) := by
  obtain ⟨t, started, shown⟩ := startSession_shown (a := a) accepted session clock
  obtain ⟨events, launched⟩ := launch_ok c a clock
  have stands : Stands c a clock session 0 (solo (aged c a clock 0) [] events) t :=
    ⟨⟨_, _, rfl⟩, shown⟩
  obtain ⟨f', t', ticked, after⟩ := stands.tickFleet wellFormed count
  rw [Nat.zero_add] at after
  obtain ⟨communications, events', rfl⟩ := after.fleet
  have there := @instance?_solo (aged c a clock count) communications events'
  rw [(aged_runs wellFormed clock count).1.key_eq] at there
  refine ⟨t', after.shown, ?_⟩
  unfold runDetached
  rw [launched]
  show (startSession c session (clock 0)).bind _ = _
  rw [started]
  show (tickFleet session clock count 0 _ t).bind _ = _
  rw [ticked]
  dsimp only [Except.bind]
  rw [there]
  rfl

theorem endSession_reel {s : Session} (records : s.isRecording = true) (now : Instant) :
    endSession (reel s) (some s.id) now = .ok (some (.ofSession (s.finish now) now)) := by
  have exported : (reel (s.finish now)).exportSession s.id now = _ := exportSession_reel
  unfold endSession
  show (Except.bind (stopRecording _ _ _) _).mapError _ = _
  rw [stopRecording_reel records]
  show (Except.bind (exportSession _ _ _) _).mapError _ = _
  rw [exported]
  rfl

-- The instance lives through all ticks, and the archive shows the last ones.
theorem detached_exact {d : Definition} (loaded : Automaton.load d = .ok a)
    (accepted : c.issue? = none) (o : Options) (id : SessionId) (clock : Nat → Instant) :
    let ages := aged c a clock
    let count := o.tickCount
    let kept := min count c.maxSnapshots.toNat
    (Instance.new c.device a (clock 0)).start (clock 0) = .ok (ages 0) ∧
      (∀ number, ∃ report, (ages number).tick .literal (clock (number + 1)) =
        .ok (ages (number + 1), report)) ∧
      runDetached c a none count clock = .ok ((ages count).latest, none) ∧
      ∃ archive, runDetached c a (some id) count clock = .ok ((ages count).latest, some archive) ∧
        archive.session.isRecording = false ∧
        Archive.ofJsonText archive.toJsonText = .ok archive ∧
        (archive.toBytes.length < UInt64.size → Archive.ofBytes archive.toBytes = .ok archive) ∧
        archive.session.frames.map (fun frame => (frame.number.toNat, frame.executions)) =
          (List.range' (count - kept + 1) kept).map (fun number => (number, [(ages number).latest])) ∧
        (0 < count → archive.session.frames.getLast?.map (·.executions) =
          some [(ages count).latest]) := by
  intro ages count kept
  have wellFormed := Automaton.load_wellFormed loaded
  have few : count < 2 ^ 64 := UInt64.toNat_lt _
  obtain ⟨_, _, unrecorded⟩ := runDetached_eq wellFormed accepted none count clock
  obtain ⟨t, sessions, recorded⟩ := runDetached_eq wellFormed accepted (some id) count clock
  obtain ⟨s, rfl, rfl, shown⟩ := sessions id rfl
  have frames := shown.frames few
  have orderly : (s.finish (clock (count + 1))).Orderly := ⟨(shown.orderly few).1, (shown.orderly few).2⟩
  rw [endSession_reel shown.records] at recorded
  refine ⟨aged_start c a clock, aged_ticks wellFormed clock, unrecorded, _, recorded, rfl,
    Archive.ofJsonText_toJsonText rfl orderly, Archive.ofBytes_toBytes rfl orderly, frames, ?_⟩
  exact shown.last few (accepted_room accepted).2

-- A session with two places, and three ticks of an instance whose script can be run.
theorem detached_exact_siren :
    Automaton.load Instance.Alarming.definition = .ok Instance.Alarming.siren ∧
      { Config.default with maxSnapshots := 2 }.issue? = none ∧
      ∃ latest archive, runDetached { Config.default with maxSnapshots := 2 }
          Instance.Alarming.siren (some ⟨7⟩) 3 (fun _ => .epoch) = .ok (latest, some archive) ∧
        Archive.ofJsonText archive.toJsonText = .ok archive ∧
        archive.session.frames.map (·.number.toNat) = [2, 3] ∧
        archive.session.frames.getLast?.map (·.executions) = some [latest] := by
  have loaded : Automaton.load Instance.Alarming.definition = .ok Instance.Alarming.siren := by
    decide +kernel
  have accepted : { Config.default with maxSnapshots := 2 }.issue? = none := by decide +kernel
  obtain ⟨_, _, _, archive, recorded, _, read, _, frames, last⟩ :=
    detached_exact loaded accepted { Options.none with ticks := some 3 } ⟨7⟩ fun _ => .epoch
  have numbers := congrArg (List.map Prod.fst) frames
  rw [List.map_map, List.map_map] at numbers
  exact ⟨loaded, accepted, _, archive, recorded, read, numbers, last (by decide)⟩

end CommandLine

end Chronomata
