import Chronomata.Proofs.Recording.Retention
import Chronomata.Proofs.Sorted.Map
import Chronomata.TimeTravel

-- Runs of time travel: any operations on any sessions, in any order. What a caller has been told is
-- kept in a log, and the log alone says what every session started in the run still holds.
namespace Chronomata.TimeTravel

inductive Operation where
  | start (id : SessionId) (options : RecordingOptions)
  | stop (id : SessionId)
  | capture (id : SessionId) (content : Capture)
  | seek (id : SessionId) (target : Int64)
  | step (id : SessionId) (delta : Int64)
  | jump (id : SessionId) (name : String)
  | play (id : SessionId) (speed : Float)
  | pause (id : SessionId)
  | advance (id : SessionId)
  | bookmark (id : SessionId) (name : String)
  | exportSession (id : SessionId)
  | importArchive (archive : Archive)

inductive Answer where
  | done (outcome : Except TimeTravelError Unit)
  | captured (outcome : Except TimeTravelError CaptureReport)
  | shown (outcome : Except TimeTravelError Frame)
  | advanced (outcome : Except TimeTravelError (Option Frame))
  | paced (outcome : Except TimeTravelError Span)
  | marked (outcome : Except TimeTravelError Bookmark)
  | exported (outcome : Except TimeTravelError Archive)

-- What is refused leaves everything as it was.
def settle {α : Type} (t : TimeTravel) (answer : Except TimeTravelError α → Answer) :
    Except TimeTravelError (TimeTravel × α) → TimeTravel × Answer
  | .ok (after, told) => (after, answer (.ok told))
  | .error cause => (t, answer (.error cause))

def perform (t : TimeTravel) (now : Instant) : Operation → TimeTravel × Answer
  | .start id options => t.settle .done ((t.startRecording id options now).map (·, ()))
  | .stop id => t.settle .done ((t.stopRecording id now).map (·, ()))
  | .capture id content => t.settle .captured (t.capture id content now)
  | .seek id target => ((t.seek id target).2, .shown (t.seek id target).1)
  | .step id delta => ((t.step id delta).2, .shown (t.step id delta).1)
  | .jump id name => ((t.jump id name).2, .shown (t.jump id name).1)
  | .play id speed => ((t.play id speed).2, .paced (t.play id speed).1)
  | .pause id => ((t.pause id).2, .done (t.pause id).1)
  | .advance id => ((t.advance id).2, .advanced (t.advance id).1)
  | .bookmark id name => t.settle .marked (t.bookmark id name now)
  | .exportSession id => (t, .exported (t.exportSession id now))
  | .importArchive archive => (t.importArchive archive now, .done (.ok ()))

-- One line of the log.
structure Entry where
  operation : Operation
  now : Instant
  answer : Answer

inductive Runs : TimeTravel → List Entry → Prop where
  | start : Runs .empty []
  | next {t : TimeTravel} {log : List Entry} (before : Runs t log) (operation : Operation)
      (now : Instant) :
      Runs (t.perform now operation).1 (log ++ [⟨operation, now, (t.perform now operation).2⟩])

def extend (now : Instant) (before : TimeTravel × List Entry) (operation : Operation) :
    TimeTravel × List Entry :=
  let (after, answer) := before.1.perform now operation
  (after, before.2 ++ [⟨operation, now, answer⟩])

theorem foldl_runs (now : Instant) (operations : List Operation) {t : TimeTravel}
    {log : List Entry} (runs : Runs t log) :
    Runs (operations.foldl (extend now) (t, log)).1 (operations.foldl (extend now) (t, log)).2 := by
  induction operations generalizing t log with
  | nil => exact runs
  | cons operation rest ih => exact ih (.next runs operation now)

-- A start makes a session new, a capture adds to it, and an import takes its id for another one.
def follow (id : SessionId) (take : Option Take) : Entry → Option Take
  | ⟨.start other options, _, .done (.ok _)⟩ =>
    if other = id then some ⟨options.maxSnapshots, []⟩ else take
  | ⟨.capture other content, now, .captured (.ok report)⟩ =>
    if other = id then take.map (·.add ⟨now, content, report⟩) else take
  | ⟨.importArchive archive, _, _⟩ => if archive.session.id = id then none else take
  | _ => take

def take? (id : SessionId) (log : List Entry) : Option Take := log.foldl (follow id) none

structure Sound (t : TimeTravel) (takes : SessionId → Option Take) : Prop where
  filed : ∀ {id s}, t.session? id = some s → s.id = id ∧ id ∈ t.playheads.keys
  kept : ∀ {id take}, takes id = some take → ∃ s, t.session? id = some s ∧ Keeps take s

variable {t : TimeTravel} {takes takes' : SessionId → Option Take}

-- Storing a session touches no other session.
theorem Sound.store {playheads : SortedMap SessionId Playhead} {s : Session}
    (sound : Sound t takes) (led : ∀ {id}, id ∈ t.playheads.keys → id ∈ playheads.keys)
    (leads : s.id ∈ playheads.keys) (others : ∀ {id}, id ≠ s.id → takes' id = takes id)
    (kept : ∀ {take}, takes' s.id = some take → Keeps take s) :
    Sound ⟨t.recorder.store s, playheads⟩ takes' := by
  have stored : ∀ id, (⟨t.recorder.store s, playheads⟩ : TimeTravel).session? id =
      if id = s.id then some s else t.session? id :=
    fun id => SortedMap.get?_insert _ _ _ _
  constructor
  · intro id found there
    rw [stored] at there
    split_ifs at there with same
    · cases there
      exact ⟨same.symm, same ▸ leads⟩
    · exact ⟨(sound.filed there).1, led (sound.filed there).2⟩
  · intro id take taken
    rw [stored]
    split_ifs with same
    · exact ⟨s, rfl, kept (same ▸ taken)⟩
    · exact sound.kept (others same ▸ taken)

theorem Sound.movePlayhead {α : Type} (sound : Sound t takes) (id : SessionId)
    (move : Playhead → Session → Except ReplayError α × Playhead) :
    Sound (t.movePlayhead id move).2 takes := by
  unfold TimeTravel.movePlayhead
  split
  · exact sound
  · refine ⟨?_, sound.kept⟩
    intro other s there
    obtain ⟨same, led⟩ := sound.filed there
    exact ⟨same, SortedMap.mem_keys_insert.mpr (.inr led)⟩

theorem recording_eq_ok {r : Recorder} {id : SessionId} {s : Session}
    (found : r.recording id = .ok s) : r.session? id = some s := by
  unfold Recorder.recording at found
  split at found
  · cases found
  · split_ifs at found
    cases found
    assumption

theorem find_eq_ok {id : SessionId} {s : Session} {p : Playhead} (found : t.find id = .ok (s, p)) :
    t.session? id = some s := by
  unfold TimeTravel.find at found
  split at found
  · cases found
    assumption
  · cases found

theorem start_sound {id : SessionId} {options : RecordingOptions} {now : Instant}
    {after : TimeTravel} (sound : Sound t takes)
    (started : t.startRecording id options now = .ok after) :
    Sound after fun other =>
      if id = other then some ⟨options.maxSnapshots, []⟩ else takes other := by
  unfold startRecording Recorder.start at started
  split at started
  · rename_i recorder made
    split_ifs at made with none
    cases made
    cases started
    refine sound.store (fun led => SortedMap.mem_keys_insert.mpr (.inr led))
      (SortedMap.mem_keys_insert.mpr (.inl rfl)) (fun other => if_neg (Ne.symm other)) ?_
    intro take taken
    cases (if_pos rfl).symm.trans taken
    exact Keeps.new none
  · cases started

-- A session may change as long as its frames and counters stay.
theorem change_sound {s s' : Session} {id : SessionId} (sound : Sound t takes)
    (found : t.session? id = some s) (same : s'.id = s.id) (ring : s'.ring = s.ring)
    (next : s'.nextFrame = s.nextFrame) : Sound { t with recorder := t.recorder.store s' } takes := by
  obtain ⟨filed, led⟩ := sound.filed found
  refine sound.store (fun led => led) (same.trans filed ▸ led) (fun _ => rfl) ?_
  intro take taken
  rw [same, filed] at taken
  obtain ⟨kept, there, keeps⟩ := sound.kept taken
  cases found.symm.trans there
  exact keeps.of_eq ring next

theorem stop_sound {id : SessionId} {now : Instant} {after : TimeTravel} (sound : Sound t takes)
    (stopped : t.stopRecording id now = .ok after) : Sound after takes := by
  unfold stopRecording Recorder.stop at stopped
  cases recording : t.recorder.recording id with
  | error cause => rw [recording] at stopped; cases stopped
  | ok s =>
    rw [recording] at stopped
    cases stopped
    exact change_sound sound (recording_eq_ok recording) rfl rfl rfl

theorem capture_sound {id : SessionId} {content : Capture} {now : Instant} {after : TimeTravel}
    {report : CaptureReport} (sound : Sound t takes)
    (captured : t.capture id content now = .ok (after, report)) :
    Sound after fun other =>
      if id = other then (takes other).map (·.add ⟨now, content, report⟩) else takes other := by
  unfold TimeTravel.capture Recorder.capture at captured
  cases recording : t.recorder.recording id with
  | error cause => rw [recording] at captured; cases captured
  | ok s =>
    rw [recording] at captured
    change Except.ok (({ t with recorder := t.recorder.store (s.append content now).1 } : TimeTravel),
      (s.append content now).2) = .ok (after, report) at captured
    obtain ⟨rfl, rfl⟩ := Prod.mk.inj (Except.ok.inj captured)
    have found : t.session? id = some s := recording_eq_ok recording
    obtain ⟨filed, led⟩ := sound.filed found
    have same : (s.append content now).1.id = id := filed
    refine sound.store (fun led => led) (same ▸ led) ?_ ?_
    · intro other different
      exact if_neg fun equal => different (equal.symm.trans same.symm)
    · intro take taken
      rw [same] at taken
      obtain ⟨before, taken', rfl⟩ := Option.map_eq_some_iff.mp ((if_pos rfl).symm.trans taken)
      obtain ⟨kept, there, keeps⟩ := sound.kept taken'
      cases found.symm.trans there
      exact keeps.append content now

theorem bookmark_sound {id : SessionId} {name : String} {now : Instant} {after : TimeTravel}
    {bookmark : Bookmark} (sound : Sound t takes)
    (marked : t.bookmark id name now = .ok (after, bookmark)) : Sound after takes := by
  unfold TimeTravel.bookmark Playhead.bookmark at marked
  cases found : t.find id with
  | error cause => rw [found] at marked; cases marked
  | ok both =>
    obtain ⟨s, p⟩ := both
    rw [found] at marked
    change ((((p.current s).map _).mapError _).bind fun _ => _) = _ at marked
    cases shown : p.current s with
    | error cause => rw [shown] at marked; cases marked
    | ok frame =>
      rw [shown] at marked
      cases marked
      exact change_sound sound (find_eq_ok found) rfl rfl rfl

theorem import_sound (sound : Sound t takes) (archive : Archive) (now : Instant) :
    Sound (t.importArchive archive now) fun id =>
      if archive.session.id = id then none else takes id := by
  have adopted : (if archive.session.isRecording then archive.session.finish now
      else archive.session).id = archive.session.id := by
    split <;> rfl
  refine sound.store (fun led => SortedMap.mem_keys_insert.mpr (.inr led)) ?_ ?_ ?_
  · exact SortedMap.mem_keys_insert.mpr (.inl adopted)
  · intro id different
    exact if_neg fun equal => different (equal.symm.trans adopted.symm)
  · intro take taken
    rw [adopted] at taken
    cases (if_pos rfl).symm.trans taken

theorem perform_sound (sound : Sound t takes) (operation : Operation) (now : Instant) :
    Sound (t.perform now operation).1 fun id =>
      follow id (takes id) ⟨operation, now, (t.perform now operation).2⟩ := by
  cases operation with
  | start id options =>
    cases started : t.startRecording id options now with
    | ok after =>
      simp only [perform, started]
      exact start_sound sound started
    | error cause =>
      simp only [perform, started]
      exact sound
  | stop id =>
    cases stopped : t.stopRecording id now with
    | ok after =>
      simp only [perform, stopped]
      exact stop_sound sound stopped
    | error cause =>
      simp only [perform, stopped]
      exact sound
  | capture id content =>
    cases captured : t.capture id content now with
    | ok both =>
      simp only [perform, captured]
      exact capture_sound sound captured
    | error cause =>
      simp only [perform, captured]
      exact sound
  | seek id target => exact sound.movePlayhead id _
  | step id delta => exact sound.movePlayhead id _
  | jump id name => exact sound.movePlayhead id _
  | play id speed => exact sound.movePlayhead id _
  | pause id => exact sound.movePlayhead id _
  | advance id => exact sound.movePlayhead id _
  | bookmark id name =>
    cases marked : t.bookmark id name now with
    | ok both =>
      simp only [perform, marked]
      exact bookmark_sound sound marked
    | error cause =>
      simp only [perform, marked]
      exact sound
  | exportSession id => exact sound
  | importArchive archive => exact import_sound sound archive now

theorem runs_sound {log : List Entry} (runs : Runs t log) : Sound t fun id => take? id log := by
  induction runs with
  | start =>
    refine ⟨?_, ?_⟩
    · intro id s found
      cases found
    · intro id take taken
      cases taken
  | next before operation now ih =>
    have after := perform_sound ih operation now
    simpa only [take?, List.foldl_append, List.foldl_cons, List.foldl_nil] using after

-- The answers to captures are in the log; whatever else was asked in between, they decide what the
-- session holds, what it dropped, and what every look at it shows. Looking a number up supposes that
-- the 64 bits of the counter have not been used up, and looking at an index that the frames have
-- indices of 63 bits.
theorem recorded_exact {log : List Entry} (runs : Runs t log) {id : SessionId} {take : Take}
    (taken : take? id log = some take) :
    ∃ s, t.session? id = some s ∧ s.maxSnapshots = take.limit ∧
      s.frames = take.kept ∧
      s.frames.map (·.number) =
        (List.range' (take.count - take.limit.toNat + 1)
          (take.count - (take.count - take.limit.toNat))).map UInt64.ofNat ∧
      s.ring.evicted = .ofNat (take.count - take.limit.toNat) ∧
      (∀ (place : Nat) (c : Captured), take.captures[place]? = some c →
        c.report = ⟨.ofNat (place + 1),
          if take.limit.toNat < place + 1 then some (.ofNat (place + 1 - take.limit.toNat))
          else none⟩) ∧
      (s.frames.length ≤ 2 ^ 63 → ∀ position,
        t.frameAt id position =
          match s.frames[min position (s.frames.length - 1)]? with
          | some frame => .ok frame
          | none => .error (.replay .emptySession)) ∧
      (take.count < 2 ^ 64 →
        (∀ (place : Nat) (c : Captured), take.captures[place]? = some c →
          take.count - take.limit.toNat ≤ place →
          ∃ frame, t.findFrame id (.ofNat (place + 1)) = .ok frame ∧
            frame.number = .ofNat (place + 1) ∧ frame.timestamp = c.now ∧
            frame.executions = c.content.executions ∧ frame.devices = c.content.devices ∧
            frame.communications = c.content.communications ∧ frame.events = c.content.events) ∧
        ∀ number : UInt64,
          ¬ (take.count - take.limit.toNat < number.toNat ∧ number.toNat ≤ take.count) →
            t.findFrame id number = .error (.replay (.frameNotFound number))) := by
  obtain ⟨s, found, keeps⟩ := (runs_sound runs).kept taken
  have shown : ∃ p, t.find id = .ok (s, p) := by
    obtain ⟨p, led⟩ := SortedMap.mem_keys.mp ((runs_sound runs).filed found).2
    exact ⟨p, by simp only [find, found, led]⟩
  obtain ⟨p, shown⟩ := shown
  have frameAt : ∀ position, t.frameAt id position = (s.frameAt position).mapError .replay := by
    intro position
    simp only [TimeTravel.frameAt, shown]
    rfl
  have findFrame : ∀ number, t.findFrame id number = (s.findFrame number).mapError .replay := by
    intro number
    simp only [TimeTravel.findFrame, shown]
    rfl
  have frames : s.frames = take.kept := keeps.frames
  refine ⟨s, found, keeps.capacity, frames, keeps.numbers, keeps.evicted,
    fun place c listed => keeps.reports listed, ?_, ?_⟩
  · intro short position
    rw [frames] at short ⊢
    rw [frameAt, keeps.frameAt_eq short]
    cases take.kept[min position (take.kept.length - 1)]? <;> rfl
  · intro few
    refine ⟨?_, ?_⟩
    · intro place c listed retained
      refine ⟨c.frame (.ofNat (place + 1)), ?_, rfl, rfl, rfl, rfl, rfl, rfl⟩
      rw [findFrame, keeps.findFrame_kept few listed retained]
      rfl
    · intro number absent
      rw [findFrame, keeps.findFrame_dropped few absent]
      rfl

-- Three captures of nothing into a session with two places. The first frame is gone, the last one is empty.
def crowded : TimeTravel × List Entry :=
  [.start ⟨7⟩ ⟨.ofMilliseconds 100, 2⟩, .capture ⟨7⟩ .empty, .capture ⟨7⟩ .empty, .seek ⟨7⟩ 1,
    .capture ⟨7⟩ .empty].foldl (extend .epoch) (.empty, [])

theorem recorded_exact_crowded :
    take? ⟨7⟩ crowded.2 = some ⟨2, [⟨.epoch, .empty, ⟨1, none⟩⟩, ⟨.epoch, .empty, ⟨2, none⟩⟩,
      ⟨.epoch, .empty, ⟨3, some 1⟩⟩]⟩ ∧
      crowded.1.findFrame ⟨7⟩ 1 = .error (.replay (.frameNotFound 1)) ∧
      ∃ frame, crowded.1.findFrame ⟨7⟩ 3 = .ok frame ∧ frame.number = 3 ∧ frame.executions = [] := by
  have taken : take? ⟨7⟩ crowded.2 = some ⟨2, [⟨.epoch, .empty, ⟨1, none⟩⟩,
      ⟨.epoch, .empty, ⟨2, none⟩⟩, ⟨.epoch, .empty, ⟨3, some 1⟩⟩]⟩ := by
    decide +kernel
  obtain ⟨s, _, _, _, _, _, _, _, found⟩ := recorded_exact (foldl_runs .epoch _ .start) taken
  obtain ⟨kept, dropped⟩ := found (by decide)
  obtain ⟨frame, shown, number, _, executions, _⟩ := kept 2 _ rfl (by decide)
  exact ⟨taken, dropped 1 (by decide), frame, shown, number, executions⟩

end Chronomata.TimeTravel
