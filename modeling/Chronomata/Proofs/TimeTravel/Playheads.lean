import Chronomata.Proofs.Replay.Playback
import Chronomata.Proofs.TimeTravel.Bookmarks

-- Playheads in a run: none ever stands behind the last frame of its session. What one line of the log does to a
-- playhead that nobody else moves, and to its session.
namespace Chronomata.TimeTravel

variable {t : TimeTravel} {id : SessionId}

-- No playhead stands behind the last frame of its session.
structure Inside (t : TimeTravel) : Prop where
  stands : ∀ {id : SessionId} {s : Session} {p : Playhead}, t.find id = .ok (s, p) →
    p.cursor ≤ s.size - 1

namespace Inside

theorem opened (inside : Inside t) (s : Session) :
    Inside ⟨t.recorder.store s, t.playheads.insert s.id .start⟩ where
  stands := by
    intro id s' p found
    obtain ⟨known, led⟩ := Paired.find_eq_ok_iff.mp found
    rw [session?_store] at known
    rw [SortedMap.get?_insert] at led
    split_ifs at known led
    · cases led
      exact Nat.zero_le _
    · exact inside.stands (Paired.find_eq_ok_iff.mpr ⟨known, led⟩)

theorem changed (inside : Inside t) (paired : Paired t) {s s' : Session} {id : SessionId}
    (found : t.session? id = some s) (same : s'.id = s.id) (longer : s.size ≤ s'.size) :
    Inside ⟨t.recorder.store s', t.playheads⟩ where
  stands := by
    intro other s₁ p found'
    obtain ⟨known, led⟩ := Paired.find_eq_ok_iff.mp found'
    rw [session?_store] at known
    split_ifs at known with own
    · cases known
      obtain rfl : other = id := (own.trans same).trans (paired.filed found)
      have stood : p.cursor ≤ s.size - 1 := inside.stands (Paired.find_eq_ok_iff.mpr ⟨found, led⟩)
      omega
    · exact inside.stands (Paired.find_eq_ok_iff.mpr ⟨known, led⟩)

theorem moved {α : Type} (inside : Inside t) (id : SessionId)
    {move : Playhead → Session → Except ReplayError α × Playhead} (moves : Playhead.Move move) :
    Inside (t.movePlayhead id move).2 := by
  unfold movePlayhead
  cases there : t.find id with
  | error cause => exact inside
  | ok both =>
    obtain ⟨s, p⟩ := both
    refine ⟨?_⟩
    intro other s' p' found
    obtain ⟨known, led⟩ := Paired.find_eq_ok_iff.mp found
    rw [SortedMap.get?_insert] at led
    split_ifs at led with own
    · cases led
      cases (find_eq_ok there).symm.trans (own ▸ known)
      exact moves.lands (inside.stands there)
    · exact inside.stands (Paired.find_eq_ok_iff.mpr ⟨known, led⟩)

theorem perform (inside : Inside t) (paired : Paired t) (operation : Operation) (now : Instant) :
    Inside (t.perform now operation).1 := by
  have yields := perform_yields t operation now
  generalize (t.perform now operation).1 = after at yields ⊢
  cases yields with
  | stays => exact inside
  | opened s => exact inside.opened s
  | changed found same longer => exact inside.changed paired found same longer
  | moved id moves => exact inside.moved id moves

end Inside

theorem Runs.inside {log : List Entry} (runs : Runs t log) : Inside t := by
  induction runs with
  | start =>
    refine ⟨?_⟩
    intro id s p found
    cases found
  | next before operation now ih => exact ih.perform before.paired operation now

-- Operations that keep a session and leave it to its playhead to move.
def Operation.LetsMove (id : SessionId) : Operation → Prop
  | .seek other _ | .step other _ | .jump other _ => other ≠ id
  | operation => operation.Spares id

theorem Operation.LetsMove.spares {operation : Operation} (lets : operation.LetsMove id) :
    operation.Spares id := by
  cases operation with
  | seek | step | jump => trivial
  | _ => exact lets

-- What the playhead of a session answered when it was to move by itself.
def advances (id : SessionId) (log : List Entry) : List (Except TimeTravelError (Option Frame)) :=
  log.filterMap fun
    | ⟨.advance other, _, .advanced answer⟩ => if other = id then some answer else none
    | _ => none

-- The frames that it came to.
def playedBack (id : SessionId) (log : List Entry) : List Frame :=
  (advances id log).filterMap fun
    | .ok found => found
    | .error _ => none

theorem advances_append (before after : List Entry) :
    advances id (before ++ after) = advances id before ++ advances id after := List.filterMap_append

theorem playedBack_append (before after : List Entry) :
    playedBack id (before ++ after) = playedBack id before ++ playedBack id after := by
  rw [playedBack, advances_append, List.filterMap_append]
  rfl

theorem advances_advanced (now : Instant) (answer : Except TimeTravelError (Option Frame)) :
    advances id [⟨.advance id, now, .advanced answer⟩] = [answer] := by
  simp [advances]

theorem playedBack_of_quiet {entry : Entry} (quiet : advances id [entry] = []) :
    playedBack id [entry] = [] := by
  rw [playedBack, quiet]
  rfl

theorem playedBack_advanced (now : Instant) (found : Option Frame) :
    playedBack id [⟨.advance id, now, .advanced (.ok found)⟩] = found.toList := by
  rw [playedBack, advances_advanced]
  cases found <;> rfl

-- What becomes of the playhead.
inductive Steers (id : SessionId) (s : Session) (p : Playhead) : Entry → Playhead → Prop where
  | stays {entry : Entry} (quiet : advances id [entry] = []) : Steers id s p entry p
  | played {speed : Float} {now : Instant} {answer : Answer} {p' : Playhead}
      (same : p'.cursor = p.cursor) : Steers id s p ⟨.play id speed, now, answer⟩ p'
  | paused {now : Instant} {answer : Answer} : Steers id s p ⟨.pause id, now, answer⟩ p.pause
  | advanced {now : Instant} {found : Option Frame} {p' : Playhead}
      (moves : Playhead.Advances s p found p') :
      Steers id s p ⟨.advance id, now, .advanced (.ok found)⟩ p'

-- What becomes of the session with it.
structure Leads (id : SessionId) (s : Session) (p : Playhead) (entry : Entry) (s' : Session)
    (p' : Playhead) : Prop where
  orderly : s.Orderly
  goesOn : s.GoesOn s'
  still : (∀ content, entry.operation ≠ .capture id content) → s'.ring = s.ring
  steers : Steers id s p entry p'

theorem playhead?_movePlayhead {α : Type} {other : SessionId} (different : other ≠ id)
    (move : Playhead → Session → Except ReplayError α × Playhead) :
    (t.movePlayhead other move).2.playheads.get? id = t.playheads.get? id := by
  unfold movePlayhead
  split
  · rfl
  · rw [SortedMap.get?_insert, if_neg (Ne.symm different)]

theorem movePlayhead_found {α : Type} {s : Session} {p : Playhead} (found : t.find id = .ok (s, p))
    (move : Playhead → Session → Except ReplayError α × Playhead) :
    (t.movePlayhead id move).1 = (move p s).1.mapError .replay ∧
      (t.movePlayhead id move).2.playheads.get? id = some (move p s).2 := by
  simp only [movePlayhead, found, SortedMap.get?_insert_self, and_self]

theorem perform_steers {s : Session} {p : Playhead} (found : t.find id = .ok (s, p))
    (short : s.size ≤ 2 ^ 63) (inside : p.cursor < s.size) {operation : Operation}
    (lets : operation.LetsMove id) (now : Instant) :
    ∃ p', (t.perform now operation).1.playheads.get? id = some p' ∧
      Steers id s p ⟨operation, now, (t.perform now operation).2⟩ p' := by
  have led : t.playheads.get? id = some p := (Paired.find_eq_ok_iff.mp found).2
  cases operation with
  | start other options =>
    refine ⟨p, ?_, .stays rfl⟩
    cases started : t.startRecording other options now with
    | error cause =>
      simp only [perform, started]
      exact led
    | ok after =>
      obtain rfl := startRecording_eq_ok started
      simp only [perform, started]
      exact (SortedMap.get?_insert _ _ _ _).trans ((if_neg (Ne.symm lets)).trans led)
  | stop other =>
    refine ⟨p, ?_, .stays rfl⟩
    cases stopped : t.stopRecording other now with
    | error cause =>
      simp only [perform, stopped]
      exact led
    | ok after =>
      obtain ⟨_, _, _, rfl⟩ := stopRecording_eq_ok stopped
      simp only [perform, stopped]
      exact led
  | capture other content =>
    refine ⟨p, ?_, .stays rfl⟩
    cases captured : t.capture other content now with
    | error cause =>
      simp only [perform, captured]
      exact led
    | ok both =>
      obtain ⟨s', known, records⟩ := recording_of_capture captured
      obtain rfl := Except.ok.inj ((capture_of_records known records content now).symm.trans captured)
      simp only [perform, captured]
      exact led
  | seek other target => exact ⟨p, (playhead?_movePlayhead lets _).trans led, .stays rfl⟩
  | step other delta => exact ⟨p, (playhead?_movePlayhead lets _).trans led, .stays rfl⟩
  | jump other name => exact ⟨p, (playhead?_movePlayhead lets _).trans led, .stays rfl⟩
  | play other speed =>
    by_cases own : other = id
    · subst own
      exact ⟨_, (movePlayhead_found found _).2, .played (p.play_cursor s speed)⟩
    · exact ⟨p, (playhead?_movePlayhead own _).trans led, .stays rfl⟩
  | pause other =>
    by_cases own : other = id
    · subst own
      exact ⟨_, (movePlayhead_found found _).2, .paused⟩
    · exact ⟨p, (playhead?_movePlayhead own _).trans led, .stays rfl⟩
  | advance other =>
    by_cases own : other = id
    · subst own
      obtain ⟨told, steered⟩ := movePlayhead_found found fun p s => p.advance s
      obtain ⟨answer, after, moved, moves⟩ := p.advance_advances short inside
      rw [moved] at told steered
      refine ⟨after, steered, ?_⟩
      show Steers other s p ⟨_, _, .advanced (t.advance other).1⟩ after
      rw [show (t.advance other).1 = .ok answer from told]
      exact .advanced moves
    · refine ⟨p, (playhead?_movePlayhead own _).trans led, .stays ?_⟩
      simp [advances, perform, own]
  | bookmark other name =>
    refine ⟨p, ?_, .stays rfl⟩
    cases marked : t.bookmark other name now with
    | error cause =>
      simp only [perform, marked]
      exact led
    | ok both =>
      obtain ⟨after, bookmark⟩ := both
      obtain ⟨_, _, _, _, _, _, rfl⟩ := bookmark_eq_ok marked
      simp only [perform, marked]
      exact led
  | exportSession other => exact ⟨p, led, .stays rfl⟩
  | importArchive archive =>
    refine ⟨p, ?_, .stays rfl⟩
    exact (SortedMap.get?_insert _ _ _ _).trans ((if_neg (Ne.symm lets)).trans led)

-- A run that imports only archives that were checked, and that uses up neither the numbers of frames nor the
-- positions in a session.
structure Bounded (id : SessionId) (t : TimeTravel) (log : List Entry) : Prop where
  runs : Runs t log
  accepted : ∀ entry ∈ log, ∀ a, entry.operation = .importArchive a → a.Accepted
  few : ∀ take, take? id log = some take → take.count < 2 ^ 64
  short : ∀ s, t.session? id = some s → s.frames.length ≤ 2 ^ 63

theorem Runs.orderly {log : List Entry} (runs : Runs t log)
    (accepted : ∀ entry ∈ log, ∀ a, entry.operation = .importArchive a → a.Accepted)
    (few : ∀ take, take? id log = some take → take.count < 2 ^ 64) {s : Session}
    (known : t.session? id = some s) : s.Orderly := by
  rcases known_cases runs accepted known with ⟨take, taken⟩ | ⟨_, orderly⟩
  · obtain ⟨kept, found, keeps⟩ := (runs_sound runs).kept taken
    cases known.symm.trans found
    exact keeps.orderly (few take taken)
  · exact orderly

-- A session that is not replaced goes on. Only captures change its frames.
theorem perform_goesOn {log : List Entry} (runs : Runs t log)
    (accepted : ∀ entry ∈ log, ∀ a, entry.operation = .importArchive a → a.Accepted) {s : Session}
    (known : t.session? id = some s) {operation : Operation} {now : Instant}
    (spares : operation.Spares id)
    (few : ∀ take, take? id (log ++ [⟨operation, now, (t.perform now operation).2⟩]) = some take →
      take.count < 2 ^ 64) :
    ∃ s', (t.perform now operation).1.session? id = some s' ∧ s.size ≤ s'.size ∧ s.GoesOn s' ∧
      ((∀ content, operation ≠ .capture id content) → s'.ring = s.ring) := by
  have becomes := perform_becomes (runs_sound runs) operation now id
  rw [known] at becomes
  generalize (t.perform now operation).1.session? id = after at becomes ⊢
  generalize line : (⟨operation, now, (t.perform now operation).2⟩ : Entry) = entry at becomes few
  cases becomes with
  | stays => exact ⟨s, rfl, Nat.le_refl _, .of_ring rfl, fun _ => rfl⟩
  | started options _ =>
    rw [show operation = _ from congrArg Entry.operation line] at spares
    exact absurd rfl spares
  | stopped => exact ⟨_, rfl, Nat.le_refl _, .of_ring rfl, fun _ => rfl⟩
  | captured records content =>
    rcases known_cases runs accepted known with ⟨take, taken⟩ | ⟨rests, _⟩
    · obtain ⟨kept, found, keeps⟩ := (runs_sound runs).kept taken
      cases known.symm.trans found
      have counted : take.count + 1 < 2 ^ 64 := by
        rw [take?, List.foldl_append, show log.foldl (follow id) none = some take from taken] at few
        have more := few _ (if_pos rfl)
        rwa [Take.count_add] at more
      refine ⟨_, rfl, s.size_append content _, keeps.append_goesOn counted content _, ?_⟩
      intro other
      exact absurd (congrArg Entry.operation line) (other content)
    · cases rests.symm.trans records
  | marked => exact ⟨_, rfl, Nat.le_refl _, .of_ring rfl, fun _ => rfl⟩
  | imported _ same =>
    rw [show operation = _ from congrArg Entry.operation line] at spares
    exact absurd same spares

-- One line of the log.
theorem Bounded.leads {log : List Entry} {entry : Entry} (bounded : Bounded id t (log ++ [entry]))
    (lets : entry.operation.LetsMove id) :
    ∃ before, Bounded id before log ∧ ∀ {s p}, before.find id = .ok (s, p) → s.isEmpty = false →
      ∃ s' p', t.find id = .ok (s', p') ∧ Leads id s p entry s' p' := by
  obtain ⟨runs, accepted, few, short⟩ := bounded
  obtain ⟨before, passed, rfl, line⟩ := runs.answered
  obtain ⟨operation, now, answer⟩ := entry
  obtain ⟨rfl⟩ : answer = (before.perform now operation).2 := congrArg Entry.answer line
  have accepted : ∀ entry ∈ log, ∀ a, entry.operation = .importArchive a → a.Accepted :=
    fun entry member => accepted entry (List.mem_append_left _ member)
  have fewer : ∀ take, take? id log = some take → take.count < 2 ^ 64 := by
    intro take taken
    obtain ⟨later, taken', grows⟩ := take?_grows (List.forall_mem_singleton.mpr lets.spares) taken
    exact Nat.lt_of_le_of_lt grows.length_le (few later taken')
  have goesOn : ∀ {s}, before.session? id = some s → _ :=
    fun known => perform_goesOn passed accepted known lets.spares few
  have shorter : ∀ s, before.session? id = some s → s.frames.length ≤ 2 ^ 63 := by
    intro s known
    obtain ⟨s', known', longer, _⟩ := goesOn known
    exact Nat.le_trans longer (short s' known')
  refine ⟨before, ⟨passed, accepted, fewer, shorter⟩, ?_⟩
  intro s p found some
  have known := find_eq_ok found
  have inside : p.cursor < s.size := by
    have stands := passed.inside.stands found
    have positive := Session.size_pos some
    omega
  obtain ⟨s', known', _, on, still⟩ := goesOn known
  obtain ⟨p', led, steers⟩ := perform_steers found (shorter s known) inside lets now
  exact ⟨s', p', Paired.find_eq_ok_iff.mpr ⟨known', led⟩, passed.orderly accepted fewer known, on,
    still, steers⟩

end Chronomata.TimeTravel
