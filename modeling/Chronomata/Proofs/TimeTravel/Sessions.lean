import Chronomata.Proofs.TimeTravel.Runs

-- What one operation can do to a session: every invariant of sessions is read off these cases.
namespace Chronomata

-- How a session stands after it was taken over from elsewhere.
def Session.adopted (s : Session) (now : Instant) : Session :=
  if s.isRecording then s.finish now else s

theorem Session.adopted_ring (s : Session) (now : Instant) : (s.adopted now).ring = s.ring := by
  unfold Session.adopted
  split <;> rfl

theorem Session.adopted_isRecording (s : Session) (now : Instant) :
    (s.adopted now).isRecording = false := by
  unfold Session.adopted
  split
  · rfl
  · rename_i rests
    exact Bool.not_eq_true _ ▸ rests

theorem Session.adopted_id (s : Session) (now : Instant) : (s.adopted now).id = s.id := by
  unfold Session.adopted
  split <;> rfl

namespace TimeTravel

-- The session under an id before and after a line of the log.
inductive Becomes (id : SessionId) : Entry → Option Session → Option Session → Prop where
  | stays {entry : Entry} (found : Option Session)
      (quiet : ∀ take, follow id take entry = take) : Becomes id entry found found
  | started {now : Instant} (options : RecordingOptions) (found : Option Session) :
      Becomes id ⟨.start id options, now, .done (.ok ())⟩ found (some (.new id options now))
  | stopped {now : Instant} {s : Session} (records : s.isRecording = true) :
      Becomes id ⟨.stop id, now, .done (.ok ())⟩ (some s) (some (s.finish now))
  | captured {now : Instant} {s : Session} (records : s.isRecording = true) (content : Capture) :
      Becomes id ⟨.capture id content, now, .captured (.ok (s.append content now).2)⟩ (some s)
        (some (s.append content now).1)
  | marked {now : Instant} (s : Session) (number : UInt64) (name : String) :
      Becomes id ⟨.bookmark id name, now, .marked (.ok ⟨number, name, now⟩)⟩ (some s)
        (some (s.addBookmark ⟨number, name, now⟩))
  | imported {now : Instant} {archive : Archive} (found : Option Session)
      (same : archive.session.id = id) :
      Becomes id ⟨.importArchive archive, now, .done (.ok ())⟩ found
        (some (archive.session.adopted now))

variable {t : TimeTravel} {takes : SessionId → Option Take} {now : Instant} {id : SessionId}

theorem recording_eq_ok_iff {r : Recorder} {s : Session} :
    r.recording id = .ok s ↔ r.session? id = some s ∧ s.isRecording = true := by
  unfold Recorder.recording
  cases r.session? id with
  | none => simp
  | some found =>
    cases records : found.isRecording with
    | true =>
      simp only [records, if_true, Except.ok.injEq, Option.some.injEq]
      constructor
      · rintro rfl
        exact ⟨rfl, records⟩
      · exact fun both => both.1
    | false =>
      simp only [records, Bool.false_eq_true, if_false, reduceCtorEq, Option.some.injEq, false_iff]
      rintro ⟨rfl, contrary⟩
      rw [records] at contrary
      cases contrary

theorem startRecording_eq_ok {options : RecordingOptions} {after : TimeTravel}
    (started : t.startRecording id options now = .ok after) :
    after = ⟨t.recorder.store (.new id options now), t.playheads.insert id .start⟩ := by
  unfold startRecording Recorder.start at started
  split at started
  · rename_i recorder made
    split_ifs at made
    cases made
    cases started
    rfl
  · cases started

theorem stopRecording_eq_ok {after : TimeTravel} (stopped : t.stopRecording id now = .ok after) :
    ∃ s, t.session? id = some s ∧ s.isRecording = true ∧
      after = ⟨t.recorder.store (s.finish now), t.playheads⟩ := by
  unfold stopRecording Recorder.stop at stopped
  cases recording : t.recorder.recording id with
  | error cause => rw [recording] at stopped; cases stopped
  | ok s =>
    obtain ⟨found, records⟩ := recording_eq_ok_iff.mp recording
    rw [recording] at stopped
    cases stopped
    exact ⟨s, found, records, rfl⟩

theorem capture_of_records {s : Session} (found : t.session? id = some s) (records : s.isRecording = true)
    (content : Capture) (now : Instant) :
    t.capture id content now = .ok (⟨t.recorder.store (s.append content now).1, t.playheads⟩,
      (s.append content now).2) := by
  have recording : t.recorder.recording id = .ok s := recording_eq_ok_iff.mpr ⟨found, records⟩
  simp only [TimeTravel.capture, Recorder.capture, recording]
  rfl

theorem capture_of_rests {s : Session} (found : t.session? id = some s)
    (rests : s.isRecording = false) (content : Capture) (now : Instant) :
    t.capture id content now = .error (.recorder (.notRecording id)) := by
  have refused : t.recorder.recording id = .error (.notRecording id) := by
    rw [Recorder.recording, show t.recorder.session? id = some s from found]
    simp only [rests, Bool.false_eq_true, if_false]
  simp only [TimeTravel.capture, Recorder.capture, refused]
  rfl

theorem recording_of_capture {content : Capture} {after : TimeTravel} {report : CaptureReport}
    (captured : t.capture id content now = .ok (after, report)) :
    ∃ s, t.session? id = some s ∧ s.isRecording = true := by
  unfold TimeTravel.capture Recorder.capture at captured
  cases recording : t.recorder.recording id with
  | error cause => rw [recording] at captured; cases captured
  | ok s => exact ⟨s, recording_eq_ok_iff.mp recording⟩

theorem session?_store (recorder : Recorder) (playheads : SortedMap SessionId Playhead) (s : Session)
    (id : SessionId) : (⟨recorder.store s, playheads⟩ : TimeTravel).session? id =
      if id = s.id then some s else recorder.session? id :=
  SortedMap.get?_insert _ _ _ _

theorem session?_movePlayhead {α : Type} (t : TimeTravel) (other : SessionId)
    (move : Playhead → Session → Except ReplayError α × Playhead) (id : SessionId) :
    (t.movePlayhead other move).2.session? id = t.session? id := by
  unfold movePlayhead
  split <;> rfl

theorem find_of_session? {takes : SessionId → Option Take} (sound : Sound t takes) {id : SessionId}
    {s : Session} (found : t.session? id = some s) :
    ∃ p, t.playheads.get? id = some p ∧ t.find id = .ok (s, p) := by
  obtain ⟨p, led⟩ := SortedMap.mem_keys.mp (sound.filed found).2
  exact ⟨p, led, by simp only [find, found, led]⟩

-- A bookmark names the frame that the playhead stands on.
theorem bookmark_eq {other : SessionId} {s : Session} {p : Playhead}
    (found : t.find other = .ok (s, p)) (name : String) :
    t.bookmark other name now = match p.current s with
      | .error cause => .error (.replay cause)
      | .ok frame =>
        .ok (⟨t.recorder.store (s.addBookmark ⟨frame.number, name, now⟩), t.playheads⟩,
          ⟨frame.number, name, now⟩) := by
  unfold TimeTravel.bookmark Playhead.bookmark
  rw [found]
  change (((p.current s).map _).mapError _).bind _ = _
  cases p.current s with
  | error cause => rfl
  | ok frame => rfl

-- Only the session that is stored becomes another one.
theorem Becomes.store {entry : Entry} {playheads : SortedMap SessionId Playhead} {s : Session}
    {other : SessionId} (filed : s.id = other)
    (quiet : other ≠ id → ∀ take, follow id take entry = take)
    (becomes : other = id → Becomes id entry (t.session? id) (some s)) :
    Becomes id entry (t.session? id)
      ((⟨t.recorder.store s, playheads⟩ : TimeTravel).session? id) := by
  rw [session?_store]
  split
  · rename_i same
    exact becomes (filed.symm.trans same.symm)
  · rename_i different
    exact .stays _ (quiet fun same => different (same.symm.trans filed.symm))

-- Moving a playhead changes no session.
theorem Becomes.move {α : Type} {entry : Entry} {other : SessionId}
    (move : Playhead → Session → Except ReplayError α × Playhead)
    (quiet : ∀ take, follow id take entry = take) :
    Becomes id entry (t.session? id) ((t.movePlayhead other move).2.session? id) := by
  rw [session?_movePlayhead]
  exact .stays _ quiet

theorem start_becomes (t : TimeTravel) (now : Instant) (id other : SessionId)
    (options : RecordingOptions) :
    Becomes id ⟨.start other options, now, (t.perform now (.start other options)).2⟩ (t.session? id)
      ((t.perform now (.start other options)).1.session? id) := by
  cases started : t.startRecording other options now with
  | error cause =>
    simp only [perform, started]
    exact .stays _ fun _ => rfl
  | ok after =>
    obtain rfl := startRecording_eq_ok started
    simp only [perform, started]
    refine Becomes.store (show (Session.new other options now).id = other from rfl) ?_ ?_
    · exact fun different take => if_neg different
    · rintro rfl
      exact .started options _

theorem stop_becomes (sound : Sound t takes) (now : Instant) (id other : SessionId) :
    Becomes id ⟨.stop other, now, (t.perform now (.stop other)).2⟩ (t.session? id)
      ((t.perform now (.stop other)).1.session? id) := by
  cases stopped : t.stopRecording other now with
  | error cause =>
    simp only [perform, stopped]
    exact .stays _ fun _ => rfl
  | ok after =>
    obtain ⟨s, found, records, rfl⟩ := stopRecording_eq_ok stopped
    simp only [perform, stopped]
    refine Becomes.store (s := s.finish now) (sound.filed found).1 (fun _ _ => rfl) ?_
    rintro rfl
    rw [found]
    exact .stopped records

theorem capture_becomes (sound : Sound t takes) (now : Instant) (id other : SessionId)
    (content : Capture) :
    Becomes id ⟨.capture other content, now, (t.perform now (.capture other content)).2⟩
      (t.session? id) ((t.perform now (.capture other content)).1.session? id) := by
  cases captured : t.capture other content now with
  | error cause =>
    simp only [perform, captured]
    exact .stays _ fun _ => rfl
  | ok both =>
    obtain ⟨s, found, records⟩ := recording_of_capture captured
    obtain rfl := Except.ok.inj ((capture_of_records found records content now).symm.trans captured)
    simp only [perform, captured]
    refine Becomes.store (s := (s.append content now).1) (sound.filed found).1 ?_ ?_
    · exact fun different take => if_neg different
    · rintro rfl
      rw [found]
      exact .captured records content

theorem bookmark_becomes (sound : Sound t takes) (now : Instant) (id other : SessionId)
    (name : String) :
    Becomes id ⟨.bookmark other name, now, (t.perform now (.bookmark other name)).2⟩ (t.session? id)
      ((t.perform now (.bookmark other name)).1.session? id) := by
  cases found : t.find other with
  | error cause =>
    simp only [perform, TimeTravel.bookmark, found]
    exact .stays _ fun _ => rfl
  | ok both =>
    obtain ⟨s, p⟩ := both
    cases shown : p.current s with
    | error cause =>
      simp only [perform, bookmark_eq found, shown]
      exact .stays _ fun _ => rfl
    | ok frame =>
      have there := find_eq_ok found
      simp only [perform, bookmark_eq found, shown]
      refine Becomes.store (s := s.addBookmark ⟨frame.number, name, now⟩) (sound.filed there).1
        (fun _ _ => rfl) ?_
      rintro rfl
      rw [there]
      exact .marked s frame.number name

theorem perform_becomes (sound : Sound t takes) (operation : Operation) (now : Instant)
    (id : SessionId) :
    Becomes id ⟨operation, now, (t.perform now operation).2⟩ (t.session? id)
      ((t.perform now operation).1.session? id) := by
  cases operation with
  | start other options => exact start_becomes t now id other options
  | stop other => exact stop_becomes sound now id other
  | capture other content => exact capture_becomes sound now id other content
  | seek other target => exact .move _ fun _ => rfl
  | step other delta => exact .move _ fun _ => rfl
  | jump other name => exact .move _ fun _ => rfl
  | play other speed => exact .move _ fun _ => rfl
  | pause other => exact .move _ fun _ => rfl
  | advance other => exact .move _ fun _ => rfl
  | bookmark other name => exact bookmark_becomes sound now id other name
  | exportSession other => exact .stays _ fun _ => rfl
  | importArchive archive =>
    refine Becomes.store (s := archive.session.adopted now) (archive.session.adopted_id now) ?_ ?_
    · exact fun different take => if_neg different
    · exact fun same => .imported _ same

end TimeTravel

end Chronomata
