import Chronomata.Proofs.Archive.Checks
import Chronomata.Proofs.TimeTravel.Sessions
import Mathlib.Data.List.Induction

-- An archive from elsewhere may say anything of its counters, its bookmarks and whether it records; what was
-- checked when it was read is enough for every look at its frames.
namespace Chronomata

namespace Session

-- The bookmark that a name stands for: the one that was set last under it.
def Marks (s : Session) (name : String) (bookmark : Bookmark) : Prop :=
  ∃ earlier later, s.bookmarks = earlier ++ bookmark :: later ∧ bookmark.name = name ∧
    ∀ b ∈ later, b.name ≠ name

theorem bookmark?_eq_some {s : Session} {name : String} {bookmark : Bookmark} :
    s.bookmark? name = some bookmark ↔ s.Marks name bookmark := by
  unfold bookmark? Marks
  rw [List.find?_eq_some_iff_append]
  constructor
  · rintro ⟨named, later, earlier, listed, others⟩
    refine ⟨earlier.reverse, later.reverse, ?_, eq_of_beq named, ?_⟩
    · rw [← List.reverse_reverse s.bookmarks, listed]
      simp
    · intro b member same
      have other := others b (List.mem_reverse.mp member)
      simp [same] at other
  · rintro ⟨earlier, later, listed, named, others⟩
    refine ⟨beq_iff_eq.mpr named, later.reverse, earlier.reverse, ?_, ?_⟩
    · rw [listed]
      simp
    · intro b member
      simpa using others b (List.mem_reverse.mp member)

theorem bookmark?_eq_none {s : Session} {name : String} :
    s.bookmark? name = none ↔ ∀ b ∈ s.bookmarks, b.name ≠ name := by
  simp [bookmark?, List.find?_eq_none]

namespace Orderly

variable {s : Session}

theorem indexOf?_eq_some (orderly : s.Orderly) {number : UInt64} {index : Nat} :
    s.indexOf? number = some index ↔ ∃ frame, s.frame? index = some frame ∧ frame.number = number := by
  unfold indexOf? frame? Ring.get?
  rw [Ring.position?_eq_some orderly.increasing, Ring.numbers, List.getElem?_map,
    Option.map_eq_some_iff]

theorem indexOf?_eq_none (orderly : s.Orderly) {number : UInt64}
    (absent : ∀ frame ∈ s.frames, frame.number ≠ number) : s.indexOf? number = none := by
  refine Option.eq_none_iff_forall_ne_some.mpr ?_
  intro index found
  obtain ⟨frame, there, same⟩ := orderly.indexOf?_eq_some.mp found
  exact absent frame (List.mem_of_getElem? there) same

theorem findFrame_present (orderly : s.Orderly) {index : Nat} {frame : Frame}
    (there : s.frame? index = some frame) : s.findFrame frame.number = .ok frame := by
  have found := orderly.indexOf?_eq_some.mpr ⟨frame, there, rfl⟩
  simp only [findFrame, found, Option.bind_some, there]

theorem findFrame_absent (orderly : s.Orderly) {number : UInt64}
    (absent : ∀ frame ∈ s.frames, frame.number ≠ number) :
    s.findFrame number = .error (.frameNotFound number) := by
  simp only [findFrame, orderly.indexOf?_eq_none absent, Option.bind_none]

-- Every number stands at one place only.
theorem index_unique (orderly : s.Orderly) {index index' : Nat} {frame frame' : Frame}
    (there : s.frame? index = some frame) (there' : s.frame? index' = some frame')
    (same : frame'.number = frame.number) : index' = index := by
  have found := orderly.indexOf?_eq_some.mpr ⟨frame, there, rfl⟩
  have found' := orderly.indexOf?_eq_some.mpr ⟨frame', there', same⟩
  exact Option.some.inj (found'.symm.trans found)

end Orderly

end Session

namespace TimeTravel

variable {t : TimeTravel}

theorem Runs.answered {log : List Entry} {entry : Entry} (runs : Runs t (log ++ [entry])) :
    ∃ before, Runs before log ∧ t = (before.perform entry.now entry.operation).1 ∧
      entry = ⟨entry.operation, entry.now, (before.perform entry.now entry.operation).2⟩ := by
  generalize whole : log ++ [entry] = all at runs
  cases runs with
  | start => exact absurd whole (by simp)
  | next runs operation now =>
    obtain ⟨rfl, last⟩ := List.append_inj' whole rfl
    cases last
    exact ⟨_, runs, rfl, rfl⟩

theorem Runs.last {log : List Entry} {entry : Entry} (runs : Runs t (log ++ [entry])) :
    ∃ before, Runs before log ∧ t = (before.perform entry.now entry.operation).1 := by
  obtain ⟨before, passed, same, _⟩ := runs.answered
  exact ⟨before, passed, same⟩

-- What holds at a point of a run and is kept by every operation behind it holds at the end.
theorem Runs.kept {holds : TimeTravel → Prop} {before after : List Entry}
    (runs : Runs t (before ++ after)) (first : ∀ {t}, Runs t before → holds t)
    (keeps : ∀ {t log} {entry : Entry}, entry ∈ after → Runs t log → holds t →
      holds (t.perform entry.now entry.operation).1) : holds t := by
  induction after using List.reverseRecOn generalizing t with
  | nil => exact first (by simpa using runs)
  | append_singleton after entry ih =>
    rw [← List.append_assoc] at runs
    obtain ⟨earlier, reached, rfl⟩ := runs.last
    exact keeps (by simp) reached (ih reached fun member => keeps (by simp [member]))

-- Operations that do not put another session under an id. Ids of new sessions are drawn at random and
-- name no session that is already there.
def Operation.Spares (id : SessionId) : Operation → Prop
  | .start other _ => other ≠ id
  | .importArchive archive => archive.session.id ≠ id
  | _ => True

-- The session of an archive is there, at rest and with its frames. Bookmarks may have been added.
def Shows (a : Archive) (t : TimeTravel) : Prop :=
  ∃ s, t.session? a.session.id = some s ∧ s.isRecording = false ∧ s.ring = a.session.ring

variable {a : Archive}

theorem importArchive_shows (t : TimeTravel) (a : Archive) (now : Instant) :
    Shows a (t.importArchive a now) := by
  refine ⟨a.session.adopted now, ?_, a.session.adopted_isRecording now, a.session.adopted_ring now⟩
  have stored := session?_store t.recorder (t.playheads.insert a.session.id .start)
    (a.session.adopted now) a.session.id
  rw [if_pos (a.session.adopted_id now).symm] at stored
  exact stored

theorem Shows.perform {log : List Entry} (runs : Runs t log) (shows : Shows a t)
    (operation : Operation) (now : Instant) (spares : operation.Spares a.session.id) :
    Shows a (t.perform now operation).1 := by
  obtain ⟨s, found, rests, ring⟩ := shows
  have becomes := perform_becomes (runs_sound runs) operation now a.session.id
  rw [found] at becomes
  unfold Shows
  generalize (t.perform now operation).1.session? a.session.id = after at becomes ⊢
  generalize line : (⟨operation, now, (t.perform now operation).2⟩ : Entry) = entry at becomes
  cases becomes with
  | stays => exact ⟨s, rfl, rests, ring⟩
  | started options _ =>
    rw [show operation = _ from congrArg Entry.operation line] at spares
    exact absurd rfl spares
  | stopped records => cases rests.symm.trans records
  | captured records content => cases rests.symm.trans records
  | marked _ number name => exact ⟨_, rfl, rests, ring⟩
  | imported _ same =>
    rw [show operation = _ from congrArg Entry.operation line] at spares
    exact absurd same spares

-- Moving a playhead to where it is leaves everything as it was.
theorem movePlayhead_stays {α : Type} {id : SessionId} {s : Session} {p : Playhead}
    {cause : ReplayError} {move : Playhead → Session → Except ReplayError α × Playhead}
    (led : t.playheads.get? id = some p) (found : t.find id = .ok (s, p))
    (stays : move p s = (.error cause, p)) : t.movePlayhead id move = (.error (.replay cause), t) := by
  have same : t.playheads.insert id p = t.playheads := by
    refine SortedMap.ext_get? ?_
    intro other
    rw [SortedMap.get?_insert]
    split
    · rename_i equal
      rw [equal, led]
    · rfl
  simp only [movePlayhead, found, stays, same]
  rfl

theorem jump_of_indexOf? {id : SessionId} {s : Session} {p : Playhead} {bookmark : Bookmark}
    {name : String} {index : Nat} {frame : Frame} (found : t.find id = .ok (s, p))
    (marked : s.bookmark? name = some bookmark) (there : s.indexOf? bookmark.frame = some index)
    (shown : s.frame? index = some frame) (short : s.frames.length ≤ 2 ^ 63) :
    (t.jump id name).1 = .ok frame ∧ (t.jump id name).2.cursor id = .ok index := by
  have inside : index < s.size := (List.getElem?_eq_some_iff.mp shown).1
  have still : s.seek (saturated index) = index := by
    rw [Keeps.seek_saturated s short]
    omega
  have moved : p.jump s name = (.ok frame, { p with cursor := index }) := by
    simp only [Playhead.jump, marked, there, Playhead.moveTo, Playhead.current, Playhead.position,
      Session.frameAt, still, shown]
  have after : t.jump id name =
      (.ok frame, ⟨t.recorder, t.playheads.insert id { p with cursor := index }⟩) := by
    simp only [jump, movePlayhead, found, moved]
    rfl
  rw [after]
  refine ⟨rfl, ?_⟩
  have kept : (⟨t.recorder, t.playheads.insert id { p with cursor := index }⟩ : TimeTravel).session? id
      = some s := show t.session? id = some s from find_eq_ok found
  have led : (⟨t.recorder, t.playheads.insert id { p with cursor := index }⟩ : TimeTravel).find id =
      .ok (s, { p with cursor := index }) := by
    simp only [find, kept, SortedMap.get?_insert_self]
  rw [cursor, led]
  exact congrArg Except.ok still

-- A jump finds the one frame that the newest bookmark of the name points at, or nothing happens.
theorem jump_cases {takes : SessionId → Option Take} (sound : Sound t takes) {id : SessionId}
    {s : Session} (found : t.session? id = some s) (orderly : s.Orderly)
    (short : s.frames.length ≤ 2 ^ 63) (name : String) :
    (∃ bookmark index frame, s.Marks name bookmark ∧ s.frame? index = some frame ∧
      frame.number = bookmark.frame ∧
      (∀ (index' : Nat) (frame' : Frame), s.frame? index' = some frame' →
        frame'.number = bookmark.frame → index' = index) ∧
      (t.jump id name).1 = .ok frame ∧ (t.jump id name).2.cursor id = .ok index) ∨
    ((∀ b ∈ s.bookmarks, b.name ≠ name) ∧
      t.jump id name = (.error (.replay (.unknownBookmark name)), t)) ∨
    (∃ bookmark, s.Marks name bookmark ∧ (∀ frame ∈ s.frames, frame.number ≠ bookmark.frame) ∧
      t.jump id name = (.error (.replay (.bookmarkEvicted name bookmark.frame)), t)) := by
  obtain ⟨p, led, shown⟩ := find_of_session? sound found
  cases marked : s.bookmark? name with
  | none =>
    refine .inr (.inl ⟨Session.bookmark?_eq_none.mp marked, movePlayhead_stays led shown ?_⟩)
    simp only [Playhead.jump, marked]
  | some bookmark =>
    have marks := Session.bookmark?_eq_some.mp marked
    cases there : s.indexOf? bookmark.frame with
    | none =>
      refine .inr (.inr ⟨bookmark, marks, ?_, movePlayhead_stays led shown ?_⟩)
      · intro frame member same
        obtain ⟨index, stands⟩ := List.getElem?_of_mem member
        have present := orderly.indexOf?_eq_some.mpr ⟨frame, stands, same⟩
        cases there.symm.trans present
      · simp only [Playhead.jump, marked, there]
    | some index =>
      obtain ⟨frame, stands, same⟩ := orderly.indexOf?_eq_some.mp there
      refine .inl ⟨bookmark, index, frame, marks, stands, same, ?_, ?_⟩
      · intro index' frame' stands' same'
        exact orderly.index_unique stands stands' (same'.trans same.symm)
      · exact jump_of_indexOf? shown marked there stands short

-- However an archive was made: when it was accepted and imported, and no other session took its id since,
-- it is looked at as it was checked. Positions have 63 bits, as many as any list of frames in
-- memory needs.
theorem imported_exact {before after : List Entry} {now : Instant} {answer : Answer}
    (runs : Runs t (before ++ ⟨.importArchive a, now, answer⟩ :: after)) (accepted : a.Accepted)
    (spared : ∀ entry ∈ after, entry.operation.Spares a.session.id) :
    ∃ s, t.session? a.session.id = some s ∧ s.isRecording = false ∧
      (∀ content now,
        t.capture a.session.id content now = .error (.recorder (.notRecording a.session.id))) ∧
      s.frames = a.session.frames ∧ s.maxSnapshots = a.session.maxSnapshots ∧
      s.frames.length ≤ s.maxSnapshots.toNat ∧
      (∀ index frame, s.frame? index = some frame →
        s.indexOf? frame.number = some index ∧
          t.findFrame a.session.id frame.number = .ok frame) ∧
      (∀ number, (∀ frame ∈ s.frames, frame.number ≠ number) →
        t.findFrame a.session.id number = .error (.replay (.frameNotFound number))) ∧
      (s.frames.length ≤ 2 ^ 63 → ∀ name,
        (∃ bookmark index frame, s.Marks name bookmark ∧ s.frame? index = some frame ∧
          frame.number = bookmark.frame ∧
          (∀ (index' : Nat) (frame' : Frame), s.frame? index' = some frame' →
            frame'.number = bookmark.frame → index' = index) ∧
          (t.jump a.session.id name).1 = .ok frame ∧
          (t.jump a.session.id name).2.cursor a.session.id = .ok index) ∨
        ((∀ b ∈ s.bookmarks, b.name ≠ name) ∧
          t.jump a.session.id name = (.error (.replay (.unknownBookmark name)), t)) ∨
        (∃ bookmark, s.Marks name bookmark ∧
          (∀ frame ∈ s.frames, frame.number ≠ bookmark.frame) ∧
          t.jump a.session.id name =
            (.error (.replay (.bookmarkEvicted name bookmark.frame)), t))) := by
  have sound := runs_sound runs
  rw [List.append_cons] at runs
  obtain ⟨s, found, rests, ring⟩ : Shows a t := by
    refine runs.kept ?_ ?_
    · intro t runs
      obtain ⟨earlier, _, rfl⟩ := runs.last
      exact importArchive_shows earlier a now
    · intro t log entry member runs shows
      exact shows.perform runs entry.operation entry.now (spared entry member)
  have orderly : s.Orderly := by
    obtain ⟨increasing, room⟩ := accepted.orderly
    refine ⟨?_, ?_⟩
    · rw [ring]
      exact increasing
    · rw [Session.size, Session.maxSnapshots, ring]
      exact room
  obtain ⟨p, led, shown⟩ := find_of_session? sound found
  have findFrame : ∀ number, t.findFrame a.session.id number =
      (s.findFrame number).mapError .replay := by
    intro number
    rw [TimeTravel.findFrame, shown]
    rfl
  refine ⟨s, found, rests, capture_of_rests found rests, congrArg Ring.frames ring,
    congrArg Ring.capacity ring, orderly.room, ?_, ?_, fun short => jump_cases sound found orderly short⟩
  · intro index frame there
    refine ⟨orderly.indexOf?_eq_some.mpr ⟨frame, there, rfl⟩, ?_⟩
    rw [findFrame, orderly.findFrame_present there]
    rfl
  · intro number absent
    rw [findFrame, orderly.findFrame_absent absent]
    rfl

def visited : TimeTravel × List Entry :=
  [.start ⟨7⟩ .default, .importArchive .forged, .capture ⟨9⟩ .empty, .stop ⟨9⟩, .jump ⟨9⟩ "a",
    .advance ⟨9⟩, .bookmark ⟨9⟩ "b", .capture ⟨7⟩ .empty].foldl (extend .epoch) (.empty, [])

theorem imported_exact_forged :
    Archive.forged.session.isRecording = true ∧
      visited.1.capture ⟨9⟩ .empty .epoch = .error (.recorder (.notRecording ⟨9⟩)) ∧
      visited.1.findFrame ⟨9⟩ 7 = .ok (.ofCapture 7 .epoch .empty) ∧
      visited.1.findFrame ⟨9⟩ 3 = .error (.replay (.frameNotFound 3)) := by
  have listed : visited.2 =
      visited.2.take 1 ++ ⟨.importArchive .forged, .epoch, .done (.ok ())⟩ :: visited.2.drop 2 := rfl
  have runs : Runs visited.1 visited.2 := foldl_runs .epoch _ .start
  have spared : ∀ entry ∈ visited.2.drop 2, entry.operation.Spares Archive.forged.session.id := by
    have operations : (visited.2.drop 2).map (·.operation) = [.capture ⟨9⟩ .empty, .stop ⟨9⟩,
        .jump ⟨9⟩ "a", .advance ⟨9⟩, .bookmark ⟨9⟩ "b", .capture ⟨7⟩ .empty] := rfl
    intro entry member
    have listed : entry.operation ∈ (visited.2.drop 2).map (·.operation) :=
      List.mem_map_of_mem member
    rw [operations] at listed
    simp only [List.mem_cons, List.not_mem_nil, or_false] at listed
    rcases listed with same | same | same | same | same | same <;>
      (rw [same]; exact trivial)
  rw [listed] at runs
  obtain ⟨s, _, _, refused, frames, _, _, present, absent, _⟩ :=
    imported_exact runs Archive.forged_accepted spared
  have second : s.frame? 1 = some (.ofCapture 7 .epoch .empty) :=
    congrArg (fun frames : List Frame => frames[1]?) frames
  refine ⟨rfl, refused .empty .epoch, (present 1 _ second).2, absent 3 ?_⟩
  rw [frames]
  decide

end TimeTravel

end Chronomata
