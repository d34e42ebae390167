import Chronomata.Proofs.TimeTravel.Imports

-- An operation that is answered with an error leaves everything as it was. Some move a playhead before they
-- find no frame; in an empty session it still stands where it started.
namespace Chronomata

namespace Session

variable {s : Session}

theorem seek_of_isEmpty (empty : s.isEmpty) (target : Int64) : s.seek target = 0 := by
  simp [seek, lastIndex?, empty]

theorem lastIndex?_of_not_isEmpty (some : s.isEmpty = false) : s.lastIndex? = .some (s.size - 1) := by
  simp [lastIndex?, some]

theorem size_pos (some : s.isEmpty = false) : 0 < s.size := by
  apply List.length_pos_iff.mpr
  intro none
  simp [isEmpty, Ring.isEmpty, none] at some

theorem seek_lt (some : s.isEmpty = false) (target : Int64) : s.seek target < s.size := by
  have positive := size_pos some
  rw [seek, lastIndex?_of_not_isEmpty some]
  dsimp only
  split
  · exact positive
  · omega

-- A position is clamped, so there is a frame as soon as there is any.
theorem frameAt_of_not_isEmpty (some : s.isEmpty = false) (position : Nat) :
    ∃ frame, s.frameAt position = .ok frame := by
  have inside : s.seek (saturated position) < s.frames.length := seek_lt some _
  have found : s.frame? (s.seek (saturated position)) = .some s.frames[s.seek (saturated position)] :=
    List.getElem?_eq_getElem inside
  exact ⟨_, by rw [frameAt, found]⟩

theorem indexOf?_of_isEmpty (empty : s.isEmpty) (number : UInt64) : s.indexOf? number = none := by
  have none : s.ring.frames = [] := List.isEmpty_iff.mp empty
  simp [indexOf?, Ring.position?, Ring.numbers, Ring.locate?, none]

-- A capture drops one frame at most, and adds one.
theorem size_append (s : Session) (content : Capture) (now : Instant) :
    s.size ≤ (s.append content now).1.size := by
  unfold append size Ring.size Ring.push
  dsimp only
  cases s.ring.frames with
  | nil => exact Nat.zero_le _
  | cons oldest rest =>
    simp only [List.cons_append]
    split <;> simp

theorem isEmpty_of_size_le {s s' : Session} (longer : s.size ≤ s'.size) (empty : s'.isEmpty) :
    s.isEmpty := by
  have none : s'.size = 0 := List.length_eq_zero_iff.mpr (List.isEmpty_iff.mp empty)
  rw [none] at longer
  exact List.isEmpty_iff.mpr (List.length_eq_zero_iff.mp (Nat.le_zero.mp longer))

end Session

-- A move that finds a frame whenever there is one, and otherwise leaves a playhead where it started.
structure Playhead.Tame {α : Type} (move : Playhead → Session → Except ReplayError α × Playhead) :
    Prop where
  rests : ∀ {s : Session}, s.isEmpty → (move .start s).2 = .start
  refused : ∀ {p : Playhead} {s : Session} {cause : ReplayError}, s.isEmpty = false →
    (move p s).1 = .error cause → (move p s).2 = p

namespace Playhead

theorem moveTo_ok {p : Playhead} {s : Session} (some : s.isEmpty = false) (index : Nat) :
    ∃ frame, (p.moveTo s index).1 = .ok frame :=
  s.frameAt_of_not_isEmpty some _

theorem seek_tame (target : Int64) : Tame fun p s => p.seek s target where
  rests empty := by
    simp [Playhead.seek, moveTo, Session.seek_of_isEmpty empty, start]
  refused some failed := by
    obtain ⟨frame, found⟩ := moveTo_ok some _
    cases found.symm.trans failed

theorem step_tame (delta : Int64) : Tame fun p s => p.step s delta where
  rests empty := by
    simp [Playhead.step, moveTo, Session.step, Session.seek_of_isEmpty empty, start]
  refused some failed := by
    obtain ⟨frame, found⟩ := moveTo_ok some _
    cases found.symm.trans failed

theorem jump_tame (name : String) : Tame fun p s => p.jump s name where
  rests := by
    intro s empty
    unfold Playhead.jump
    cases s.bookmark? name with
    | none => rfl
    | some bookmark => simp only [Session.indexOf?_of_isEmpty empty]
  refused := by
    intro p s cause some failed
    unfold Playhead.jump at failed ⊢
    cases marked : s.bookmark? name with
    | none => rfl
    | some bookmark =>
      simp only [marked] at failed ⊢
      cases there : s.indexOf? bookmark.frame with
      | none => rfl
      | some index =>
        simp only [there] at failed
        obtain ⟨frame, found⟩ := moveTo_ok some index
        cases found.symm.trans failed

theorem play_tame (speed : Float) : Tame fun p s => p.play s speed where
  rests := by
    intro s empty
    unfold Playhead.play
    split <;> rfl
  refused := by
    intro p s cause some failed
    unfold Playhead.play at failed ⊢
    split
    · rfl
    · rename_i usable
      rw [if_neg usable] at failed
      simp only [some, Bool.false_eq_true, if_false] at failed ⊢
      cases paced : pacing s.interval speed with
      | error e => rfl
      | ok pace =>
        rw [paced] at failed
        cases failed

theorem pause_tame : Tame fun p (_ : Session) => ((.ok () : Except ReplayError Unit), p.pause) where
  rests _ := rfl
  refused _ failed := by cases failed

theorem advance_tame : Tame fun p s => p.advance s where
  rests _ := rfl
  refused := by
    intro p s cause some failed
    unfold Playhead.advance at failed ⊢
    split
    · rfl
    · rename_i playing
      rw [if_neg playing, Session.lastIndex?_of_not_isEmpty some] at failed
      dsimp only at failed
      split at failed
      · cases failed
      · obtain ⟨frame, found⟩ := moveTo_ok (p := p) some (s.step (p.position s) 1)
        rw [show (p.step s 1).1 = .ok frame from found] at failed
        cases failed

-- The moves of a playhead.
inductive Move : {α : Type} → (Playhead → Session → Except ReplayError α × Playhead) → Prop where
  | seek (target : Int64) : Move fun p s => p.seek s target
  | step (delta : Int64) : Move fun p s => p.step s delta
  | jump (name : String) : Move fun p s => p.jump s name
  | play (speed : Float) : Move fun p s => p.play s speed
  | pause : Move fun p _ => (.ok (), p.pause)
  | advance : Move fun p s => p.advance s

theorem Move.tame {α : Type} {move : Playhead → Session → Except ReplayError α × Playhead}
    (moves : Move move) : Tame move := by
  cases moves with
  | seek target => exact seek_tame target
  | step delta => exact step_tame delta
  | jump name => exact jump_tame name
  | play speed => exact play_tame speed
  | pause => exact pause_tame
  | advance => exact advance_tame

end Playhead

namespace TimeTravel

inductive Yields (t : TimeTravel) : TimeTravel → Prop where
  | stays : Yields t t
  | opened (s : Session) : Yields t ⟨t.recorder.store s, t.playheads.insert s.id .start⟩
  | changed {s s' : Session} {id : SessionId} (found : t.session? id = some s) (same : s'.id = s.id)
      (longer : s.size ≤ s'.size) : Yields t ⟨t.recorder.store s', t.playheads⟩
  | moved {α : Type} (id : SessionId)
      {move : Playhead → Session → Except ReplayError α × Playhead} (moves : Playhead.Move move) :
      Yields t (t.movePlayhead id move).2

theorem perform_yields (t : TimeTravel) (operation : Operation) (now : Instant) :
    Yields t (t.perform now operation).1 := by
  cases operation with
  | start id options =>
    cases started : t.startRecording id options now with
    | error cause =>
      simp only [TimeTravel.perform, started]
      exact .stays
    | ok after =>
      obtain rfl := startRecording_eq_ok started
      simp only [TimeTravel.perform, started]
      exact .opened (.new id options now)
  | stop id =>
    cases stopped : t.stopRecording id now with
    | error cause =>
      simp only [TimeTravel.perform, stopped]
      exact .stays
    | ok after =>
      obtain ⟨s, found, _, rfl⟩ := stopRecording_eq_ok stopped
      simp only [TimeTravel.perform, stopped]
      exact .changed found rfl (Nat.le_refl _)
  | capture id content =>
    cases captured : t.capture id content now with
    | error cause =>
      simp only [TimeTravel.perform, captured]
      exact .stays
    | ok both =>
      obtain ⟨s, found, records⟩ := recording_of_capture captured
      obtain rfl := Except.ok.inj ((capture_of_records found records content now).symm.trans captured)
      simp only [TimeTravel.perform, captured]
      exact .changed found rfl (s.size_append content now)
  | seek id target => exact .moved id (.seek target)
  | step id delta => exact .moved id (.step delta)
  | jump id name => exact .moved id (.jump name)
  | play id speed => exact .moved id (.play speed)
  | pause id => exact .moved id .pause
  | advance id => exact .moved id .advance
  | bookmark id name =>
    cases there : t.find id with
    | error cause =>
      simp only [TimeTravel.perform, TimeTravel.bookmark, there]
      exact .stays
    | ok both =>
      obtain ⟨s, p⟩ := both
      cases shown : p.current s with
      | error cause =>
        simp only [TimeTravel.perform, bookmark_eq there, shown]
        exact .stays
      | ok frame =>
        simp only [TimeTravel.perform, bookmark_eq there, shown]
        exact .changed (find_eq_ok there) rfl (Nat.le_refl _)
  | exportSession id => exact .stays
  | importArchive archive =>
    have opened : Yields t _ := .opened (archive.session.adopted now)
    rw [archive.session.adopted_id now] at opened
    exact opened

-- Every session is filed under its own id and has a playhead, and nothing else has one. The playhead of a
-- session without frames has never been moved.
structure Paired (t : TimeTravel) : Prop where
  filed : ∀ {id s}, t.session? id = some s → s.id = id
  led : ∀ {id s}, t.session? id = some s → ∃ p, t.playheads.get? id = some p
  recorded : ∀ {id p}, t.playheads.get? id = some p → ∃ s, t.session? id = some s
  unmoved : ∀ {id s}, t.session? id = some s → s.isEmpty → t.playheads.get? id = some .start

namespace Paired

variable {t : TimeTravel}

theorem find_eq_ok_iff {id : SessionId} {s : Session} {p : Playhead} :
    t.find id = .ok (s, p) ↔ t.session? id = some s ∧ t.playheads.get? id = some p := by
  unfold find
  cases t.session? id <;> cases t.playheads.get? id <;> simp

-- A session opened anew comes with a playhead that stands at its start.
theorem opened (paired : Paired t) (s : Session) :
    Paired ⟨t.recorder.store s, t.playheads.insert s.id .start⟩ where
  filed := by
    intro id found there
    rw [session?_store] at there
    split at there
    · rename_i same
      cases there
      exact same.symm
    · exact paired.filed there
  led := by
    intro id found there
    rw [SortedMap.get?_insert]
    rw [session?_store] at there
    split at there
    · rename_i same
      exact ⟨.start, if_pos same⟩
    · rename_i other
      rw [if_neg other]
      exact paired.led there
  recorded := by
    intro id p led
    rw [SortedMap.get?_insert] at led
    rw [session?_store]
    by_cases same : id = s.id
    · exact ⟨s, if_pos same⟩
    · rw [if_neg same] at led ⊢
      exact paired.recorded led
  unmoved := by
    intro id found there empty
    rw [SortedMap.get?_insert]
    rw [session?_store] at there
    split at there
    · rename_i same
      exact if_pos same
    · rename_i other
      rw [if_neg other]
      exact paired.unmoved there empty

-- A session may change as long as it keeps its id and does not lose all of its frames.
theorem changed (paired : Paired t) {s s' : Session} {id : SessionId}
    (found : t.session? id = some s) (same : s'.id = s.id) (kept : s'.isEmpty → s.isEmpty) :
    Paired ⟨t.recorder.store s', t.playheads⟩ := by
  have own : s'.id = id := same.trans (paired.filed found)
  constructor
  · intro other stored there
    rw [session?_store] at there
    split at there
    · rename_i equal
      cases there
      exact equal.symm
    · exact paired.filed there
  · intro other stored there
    rw [session?_store] at there
    split at there
    · rename_i equal
      exact paired.led (equal.trans own ▸ found)
    · exact paired.led there
  · intro other p led
    rw [session?_store]
    split
    · exact ⟨s', rfl⟩
    · exact paired.recorded led
  · intro other stored there empty
    rw [session?_store] at there
    split at there
    · rename_i equal
      cases there
      exact paired.unmoved (equal.trans own ▸ found) (kept empty)
    · exact paired.unmoved there empty

theorem moved {α : Type} (paired : Paired t) (id : SessionId)
    {move : Playhead → Session → Except ReplayError α × Playhead} (tame : Playhead.Tame move) :
    Paired (t.movePlayhead id move).2 := by
  unfold movePlayhead
  cases there : t.find id with
  | error cause => exact paired
  | ok both =>
    obtain ⟨s, p⟩ := both
    obtain ⟨found, led⟩ := find_eq_ok_iff.mp there
    refine ⟨paired.filed, ?_, ?_, ?_⟩
    · intro other s' found'
      rw [SortedMap.get?_insert]
      split
      · exact ⟨_, rfl⟩
      · exact paired.led found'
    · intro other p' led'
      rw [SortedMap.get?_insert] at led'
      split at led'
      · rename_i same
        exact ⟨s, same ▸ found⟩
      · exact paired.recorded led'
    · intro other s' found' empty
      rw [SortedMap.get?_insert]
      split
      · rename_i same
        cases found.symm.trans (same ▸ found')
        cases led.symm.trans (paired.unmoved found empty)
        exact congrArg some (tame.rests empty)
      · exact paired.unmoved found' empty

-- A move that is refused was no move.
theorem stays {α : Type} (paired : Paired t) {id : SessionId} {cause : TimeTravelError}
    {move : Playhead → Session → Except ReplayError α × Playhead} (tame : Playhead.Tame move)
    (refused : (t.movePlayhead id move).1 = .error cause) : (t.movePlayhead id move).2 = t := by
  cases there : t.find id with
  | error e => simp only [movePlayhead, there]
  | ok both =>
    obtain ⟨s, p⟩ := both
    obtain ⟨found, led⟩ := find_eq_ok_iff.mp there
    simp only [movePlayhead, there] at refused
    cases answer : (move p s).1 with
    | ok told =>
      rw [answer] at refused
      cases refused
    | error e =>
      have same : (move p s).2 = p := by
        cases empty : s.isEmpty with
        | true =>
          cases led.symm.trans (paired.unmoved found empty)
          exact tame.rests empty
        | false => exact tame.refused empty answer
      have stays : move p s = (.error e, p) := Prod.ext answer same
      rw [movePlayhead_stays led there stays]

theorem perform (paired : Paired t) (operation : Operation) (now : Instant) :
    Paired (t.perform now operation).1 := by
  have yields := perform_yields t operation now
  generalize (t.perform now operation).1 = after at yields ⊢
  cases yields with
  | stays => exact paired
  | opened s => exact paired.opened s
  | changed found same longer => exact paired.changed found same (Session.isEmpty_of_size_le longer)
  | moved id moves => exact paired.moved id moves.tame

end Paired

theorem Runs.paired {t : TimeTravel} {log : List Entry} (runs : Runs t log) : Paired t := by
  induction runs with
  | start =>
    constructor
    · intro id s found
      cases found
    · intro id s found
      cases found
    · intro id p led
      cases led
    · intro id s found
      cases found
  | next before operation now ih => exact ih.perform operation now

-- The session that an operation is about. Starting and importing make one.
def Operation.about? : Operation → Option SessionId
  | .start _ _ | .importArchive _ => none
  | .stop id | .capture id _ | .seek id _ | .step id _ | .jump id _ | .play id _ | .pause id
  | .advance id | .bookmark id _ | .exportSession id => some id

def Answer.refusal? : Answer → Option TimeTravelError
  | .done (.error cause) | .captured (.error cause) | .shown (.error cause)
  | .advanced (.error cause) | .paced (.error cause) | .marked (.error cause)
  | .exported (.error cause) => some cause
  | _ => none

-- Errors that say that there is no such session.
inductive MissesSession (id : SessionId) : TimeTravelError → Prop where
  | travel : MissesSession id (.unknownSession id)
  | recorder : MissesSession id (.recorder (.unknownSession id))

variable {t : TimeTravel}

theorem find_of_missing {id : SessionId} (missing : t.session? id = none) :
    t.find id = .error (.unknownSession id) := by
  rw [find, missing]

theorem recording_of_missing {id : SessionId} (missing : t.session? id = none) :
    t.recorder.recording id = .error (.unknownSession id) := by
  rw [Recorder.recording, show t.recorder.session? id = none from missing]

theorem movePlayhead_of_missing {α : Type} {id : SessionId} (missing : t.session? id = none)
    (move : Playhead → Session → Except ReplayError α × Playhead) :
    t.movePlayhead id move = (.error (.unknownSession id), t) := by
  rw [movePlayhead, find_of_missing missing]

theorem perform_of_missing {operation : Operation} {id : SessionId}
    (about : operation.about? = some id) (missing : t.session? id = none) (now : Instant) :
    ∃ cause, (t.perform now operation).2.refusal? = some cause ∧ MissesSession id cause := by
  have absent := find_of_missing missing
  have resting := recording_of_missing missing
  have still := @movePlayhead_of_missing t
  cases operation with
  | start other options => cases about
  | importArchive archive => cases about
  | stop other =>
    cases about
    refine ⟨_, ?_, .recorder⟩
    simp only [perform, stopRecording, Recorder.stop, resting]
    rfl
  | capture other content =>
    cases about
    refine ⟨_, ?_, .recorder⟩
    simp only [perform, TimeTravel.capture, Recorder.capture, resting]
    rfl
  | seek other target =>
    cases about
    exact ⟨_, by simp only [perform, seek, still missing]; rfl, .travel⟩
  | step other delta =>
    cases about
    exact ⟨_, by simp only [perform, step, still missing]; rfl, .travel⟩
  | jump other name =>
    cases about
    exact ⟨_, by simp only [perform, jump, still missing]; rfl, .travel⟩
  | play other speed =>
    cases about
    exact ⟨_, by simp only [perform, play, still missing]; rfl, .travel⟩
  | pause other =>
    cases about
    exact ⟨_, by simp only [perform, pause, still missing]; rfl, .travel⟩
  | advance other =>
    cases about
    exact ⟨_, by simp only [perform, advance, still missing]; rfl, .travel⟩
  | bookmark other name =>
    cases about
    refine ⟨_, ?_, .travel⟩
    simp only [perform, TimeTravel.bookmark, absent]
    rfl
  | exportSession other =>
    cases about
    refine ⟨_, ?_, .travel⟩
    simp only [perform, TimeTravel.exportSession, absent]
    rfl

theorem settle_of_refusal {α : Type} {answer : Except TimeTravelError α → Answer}
    {outcome : Except TimeTravelError (TimeTravel × α)} {cause : TimeTravelError}
    (accepted : ∀ told, (answer (.ok told)).refusal? = none)
    (refused : (t.settle answer outcome).2.refusal? = some cause) :
    (t.settle answer outcome).1 = t := by
  cases outcome with
  | error e => rfl
  | ok both =>
    obtain ⟨after, told⟩ := both
    cases (accepted told).symm.trans refused

theorem shown_refusal? {α : Type} {answer : Except TimeTravelError α → Answer}
    {outcome : Except TimeTravelError α} {cause : TimeTravelError}
    (accepted : ∀ told, (answer (.ok told)).refusal? = none)
    (refused : (answer outcome).refusal? = some cause) : ∃ e, outcome = .error e := by
  cases outcome with
  | error e => exact ⟨e, rfl⟩
  | ok told => cases (accepted told).symm.trans refused

theorem Paired.perform_of_refusal (paired : Paired t) {operation : Operation} {now : Instant}
    {cause : TimeTravelError} (refused : (t.perform now operation).2.refusal? = some cause) :
    (t.perform now operation).1 = t := by
  cases operation with
  | start id options => exact settle_of_refusal (fun _ => rfl) refused
  | stop id => exact settle_of_refusal (fun _ => rfl) refused
  | capture id content => exact settle_of_refusal (fun _ => rfl) refused
  | bookmark id name => exact settle_of_refusal (fun _ => rfl) refused
  | exportSession id => rfl
  | importArchive archive => cases refused
  | seek id target =>
    obtain ⟨e, failed⟩ := shown_refusal? (fun _ => rfl) refused
    exact paired.stays (Playhead.seek_tame target) failed
  | step id delta =>
    obtain ⟨e, failed⟩ := shown_refusal? (fun _ => rfl) refused
    exact paired.stays (Playhead.step_tame delta) failed
  | jump id name =>
    obtain ⟨e, failed⟩ := shown_refusal? (fun _ => rfl) refused
    exact paired.stays (Playhead.jump_tame name) failed
  | play id speed =>
    obtain ⟨e, failed⟩ := shown_refusal? (fun _ => rfl) refused
    exact paired.stays (Playhead.play_tame speed) failed
  | pause id =>
    obtain ⟨e, failed⟩ := shown_refusal? (fun _ => rfl) refused
    exact paired.stays Playhead.pause_tame failed
  | advance id =>
    obtain ⟨e, failed⟩ := shown_refusal? (fun _ => rfl) refused
    exact paired.stays Playhead.advance_tame failed

-- Sessions and playheads come in pairs, whatever was done; what is asked of a session that is not there
-- is refused for that reason; and what is refused for any reason changes nothing.
theorem refused_exact {log : List Entry} (runs : Runs t log) :
    (∀ id, id ∈ t.playheads.keys ↔ ∃ s, t.session? id = some s) ∧
      (∀ id s, t.session? id = some s → s.id = id) ∧
      (∀ id, t.session? id = none →
        (∀ operation now, operation.about? = some id →
          ∃ cause, (t.perform now operation).2.refusal? = some cause ∧ MissesSession id cause) ∧
        (∀ position, t.frameAt id position = .error (.unknownSession id)) ∧
        (∀ number, t.findFrame id number = .error (.unknownSession id)) ∧
        t.cursor id = .error (.unknownSession id) ∧ t.isPlaying id = .error (.unknownSession id)) ∧
      ∀ operation now cause, (t.perform now operation).2.refusal? = some cause →
        (t.perform now operation).1 = t := by
  have paired := runs.paired
  refine ⟨?_, fun id s => paired.filed, ?_, fun operation now cause => paired.perform_of_refusal⟩
  · intro id
    rw [SortedMap.mem_keys]
    constructor
    · rintro ⟨p, led⟩
      exact paired.recorded led
    · rintro ⟨s, found⟩
      exact paired.led found
  · intro id missing
    have absent := find_of_missing missing
    refine ⟨fun operation now about => perform_of_missing about missing now, ?_, ?_, ?_, ?_⟩
    · intro position
      rw [TimeTravel.frameAt, absent]
      rfl
    · intro number
      rw [TimeTravel.findFrame, absent]
      rfl
    · rw [TimeTravel.cursor, absent]
      rfl
    · rw [TimeTravel.isPlaying, absent]
      rfl

def attempted : TimeTravel × List Entry :=
  [.start ⟨7⟩ .default, .importArchive .forged, .seek ⟨9⟩ 1, .stop ⟨9⟩, .seek ⟨7⟩ 5].foldl
    (extend .epoch) (.empty, [])

theorem refused_exact_attempted :
    (attempted.1.perform .epoch (.step ⟨7⟩ 5)).2.refusal? = some (.replay .emptySession) ∧
      (attempted.1.perform .epoch (.step ⟨7⟩ 5)).1 = attempted.1 ∧
      (attempted.1.perform .epoch (.jump ⟨9⟩ "lost")).1 = attempted.1 ∧
      attempted.1.frameAt ⟨8⟩ 0 = .error (.unknownSession ⟨8⟩) ∧
      ∃ cause, (attempted.1.perform .epoch (.stop ⟨8⟩)).2.refusal? = some cause ∧
        MissesSession ⟨8⟩ cause := by
  have runs : Runs attempted.1 attempted.2 := foldl_runs .epoch _ .start
  obtain ⟨_, _, missing, unchanged⟩ := refused_exact runs
  have absent : attempted.1.session? ⟨8⟩ = none := by decide +kernel
  obtain ⟨refused, shown, _⟩ := missing ⟨8⟩ absent
  have empty : (attempted.1.perform .epoch (.step ⟨7⟩ 5)).2.refusal? =
      some (.replay .emptySession) := by decide +kernel
  have unmarked : (attempted.1.perform .epoch (.jump ⟨9⟩ "lost")).2.refusal? =
      some (.replay (.unknownBookmark "lost")) := by decide +kernel
  exact ⟨empty, unchanged _ _ _ empty, unchanged _ _ _ unmarked, shown 0,
    refused (.stop ⟨8⟩) .epoch rfl⟩

end TimeTravel

end Chronomata
