import Chronomata.Proofs.Archive.Checks
import Chronomata.Proofs.TimeTravel.Sessions

-- Exported sessions: whatever happened to a session, its archive passes the checks and is read back from
-- text and from bytes as it was.
namespace Chronomata

-- As long as its counter has not been used up, a session that is recorded numbers its frames in order.
theorem Keeps.orderly {take : Take} {s : Session} (keeps : Keeps take s)
    (few : take.count < 2 ^ 64) : s.Orderly := by
  refine ⟨keeps.increasing few, ?_⟩
  have kept : take.kept.length = take.count - (take.count - take.limit.toNat) := by
    rw [Take.kept, List.length_drop, Take.recorded_length, Take.dropped]
  rw [Session.size, Session.maxSnapshots, Ring.size, keeps.frames, keeps.capacity, kept]
  omega

namespace TimeTravel

variable {t : TimeTravel}

-- A session was started in the run, or it was imported and is at rest.
theorem known_cases {log : List Entry} (runs : Runs t log)
    (accepted : ∀ entry ∈ log, ∀ a, entry.operation = .importArchive a → a.Accepted)
    {id : SessionId} {s : Session} (known : t.session? id = some s) :
    (∃ take, take? id log = some take) ∨ s.isRecording = false ∧ s.Orderly := by
  induction runs generalizing s with
  | start => cases known
  | @next t log before operation now ih =>
    have earlier : ∀ {s}, t.session? id = some s →
        (∃ take, take? id log = some take) ∨ s.isRecording = false ∧ s.Orderly :=
      ih fun entry member => accepted entry (List.mem_append_left _ member)
    have accepted := accepted _ (List.mem_append_right _ List.mem_cons_self)
    have becomes := perform_becomes (runs_sound before) operation now id
    rw [known] at becomes
    rw [take?, List.foldl_append, List.foldl_cons, List.foldl_nil]
    change (∃ take, follow id (take? id log) _ = some take) ∨ _
    generalize t.session? id = found at becomes earlier
    generalize (⟨operation, now, (t.perform now operation).2⟩ : Entry) = entry at becomes accepted ⊢
    cases becomes with
    | stays _ quiet =>
      rw [quiet]
      exact earlier rfl
    | started options _ => exact .inl ⟨_, if_pos rfl⟩
    | stopped records =>
      rcases earlier rfl with taken | ⟨rests, _⟩
      · exact .inl taken
      · cases rests.symm.trans records
    | captured records content =>
      rcases earlier rfl with ⟨take, taken⟩ | ⟨rests, _⟩
      · rw [taken]
        exact .inl ⟨_, if_pos rfl⟩
      · cases rests.symm.trans records
    | marked earlierSession number name =>
      rcases earlier rfl with taken | ⟨rests, increasing, room⟩
      · exact .inl taken
      · exact .inr ⟨rests, increasing, room⟩
    | @imported _ archive _ same =>
      have orderly := (accepted archive rfl).orderly
      refine .inr ⟨archive.session.adopted_isRecording _, ?_, ?_⟩
      · rw [archive.session.adopted_ring]
        exact orderly.increasing
      · rw [Session.size, Session.maxSnapshots, archive.session.adopted_ring]
        exact orderly.room

-- What is exported is the session as it stands, and reading it back loses nothing. The 64 bits of the
-- counter must not have been used up, and the bytes must be fewer than a word can count.
theorem exported_exact {log : List Entry} (runs : Runs t log)
    (accepted : ∀ entry ∈ log, ∀ a, entry.operation = .importArchive a → a.Accepted)
    {id : SessionId} (few : ∀ take, take? id log = some take → take.count < 2 ^ 64) {s : Session}
    (known : t.session? id = some s) (now : Instant) :
    ∃ a, t.exportSession id now = .ok a ∧ a.exportedAt = now ∧ a.session = s ∧
      a.verify = .ok a ∧ Archive.ofJsonText a.toJsonText = .ok a ∧
      (a.toBytes.length < UInt64.size → Archive.ofBytes a.toBytes = .ok a) := by
  have orderly : s.Orderly := by
    rcases known_cases runs accepted known with ⟨take, taken⟩ | ⟨_, orderly⟩
    · obtain ⟨kept, found, keeps⟩ := (runs_sound runs).kept taken
      cases known.symm.trans found
      exact keeps.orderly (few take taken)
    · exact orderly
  obtain ⟨p, _, shown⟩ := find_of_session? (runs_sound runs) known
  refine ⟨.ofSession s now, ?_, rfl, rfl, ?_, ?_, ?_⟩
  · rw [exportSession, shown]
    rfl
  · exact Archive.verify_eq_ok.mpr ⟨rfl, rfl, orderly⟩
  · exact Archive.ofJsonText_toJsonText rfl orderly
  · exact Archive.ofBytes_toBytes rfl orderly

-- A session that has dropped a frame and is still recording, next to an imported one.
def shelved : TimeTravel × List Entry :=
  [.start ⟨7⟩ ⟨.ofMilliseconds 100, 2⟩, .capture ⟨7⟩ .empty, .capture ⟨7⟩ .empty,
    .capture ⟨7⟩ .empty, .bookmark ⟨7⟩ "here", .importArchive .forged].foldl (extend .epoch)
    (.empty, [])

theorem exported_exact_shelved :
    (∃ a, shelved.1.exportSession ⟨7⟩ .epoch = .ok a ∧ a.session.isRecording = true ∧
      Archive.ofJsonText a.toJsonText = .ok a) ∧
    ∃ a, shelved.1.exportSession ⟨9⟩ .epoch = .ok a ∧ a.session.isRecording = false ∧
      Archive.ofJsonText a.toJsonText = .ok a := by
  have runs : Runs shelved.1 shelved.2 := foldl_runs .epoch _ .start
  have accepted : ∀ entry ∈ shelved.2, ∀ a, entry.operation = .importArchive a → a.Accepted := by
    intro entry member a imports
    have operations : shelved.2.map (·.operation) = [.start ⟨7⟩ ⟨.ofMilliseconds 100, 2⟩,
        .capture ⟨7⟩ .empty, .capture ⟨7⟩ .empty, .capture ⟨7⟩ .empty, .bookmark ⟨7⟩ "here",
        .importArchive .forged] := rfl
    have listed : entry.operation ∈ shelved.2.map (·.operation) := List.mem_map_of_mem member
    rw [operations, imports] at listed
    simp only [List.mem_cons, reduceCtorEq, false_or, List.not_mem_nil, or_false,
      Operation.importArchive.injEq] at listed
    rw [listed]
    exact Archive.forged_accepted
  obtain ⟨s, known, records⟩ : ∃ s, shelved.1.session? ⟨7⟩ = some s ∧ s.isRecording = true :=
    ⟨_, rfl, rfl⟩
  obtain ⟨s', known', rests⟩ : ∃ s, shelved.1.session? ⟨9⟩ = some s ∧ s.isRecording = false :=
    ⟨_, rfl, rfl⟩
  have counted : (take? ⟨7⟩ shelved.2).map (·.count) = some 3 := rfl
  have few : ∀ take, take? ⟨7⟩ shelved.2 = some take → take.count < 2 ^ 64 := by
    intro take taken
    rw [taken, Option.map_some] at counted
    rw [Option.some.inj counted]
    decide
  have none : ∀ take, take? ⟨9⟩ shelved.2 = some take → take.count < 2 ^ 64 := by
    intro take taken
    cases taken
  obtain ⟨a, exported, _, same, _, read, _⟩ := exported_exact runs accepted few known .epoch
  obtain ⟨b, exported', _, same', _, read', _⟩ := exported_exact runs accepted none known' .epoch
  exact ⟨⟨a, exported, same ▸ records, read⟩, b, exported', same' ▸ rests, read'⟩

end TimeTravel

end Chronomata
