import Chronomata.Proofs.Replay.Clamping
import Chronomata.Proofs.TimeTravel.Refusals

-- Playheads that move on by themselves, while their sessions go on as well: what one move does, and that the
-- frame at a position is never followed there by an earlier one. No move leads behind the last frame.
namespace Chronomata

namespace Ring

theorem locate?_lt {run : List UInt64} {number : UInt64} {index : Nat}
    (located : locate? run number = some index) : index < run.length := by
  unfold locate? at located
  dsimp only at located
  split at located
  · rename_i there
    cases located
    exact (List.getElem?_eq_some_iff.mp there).1
  · cases located

theorem position?_lt {r : Ring} {number : UInt64} {index : Nat}
    (found : r.position? number = some index) : index < r.size := by
  have whole : (r.numbers.take r.reach).length + (r.numbers.drop r.reach).length = r.size := by
    rw [← List.length_append, List.take_append_drop, numbers, List.length_map, size]
  unfold position? at found
  dsimp only at found
  cases newer : (r.numbers.drop r.reach).head? with
  | none =>
    rw [newer] at found
    have older := locate?_lt found
    omega
  | some first =>
    have some : 0 < (r.numbers.drop r.reach).length :=
      List.length_pos_of_mem (List.mem_of_head? newer)
    rw [newer] at found
    dsimp only at found
    split_ifs at found
    · cases found
      omega
    · have older := locate?_lt found
      omega
    · obtain ⟨place, located, rfl⟩ := Option.map_eq_some_iff.mp found
      have newer := locate?_lt located
      omega

end Ring

theorem Session.lt_size {s : Session} {place : Nat} {frame : Frame}
    (there : s.frame? place = some frame) : place < s.size :=
  (List.getElem?_eq_some_iff.mp there).1

theorem Session.isEmpty_of_lt_size {s : Session} {place : Nat} (inside : place < s.size) :
    s.isEmpty = false := by
  refine Bool.eq_false_iff.mpr fun empty => ?_
  rw [Session.size, Ring.size, List.isEmpty_iff.mp empty] at inside
  exact Nat.not_lt_zero _ inside

theorem Session.seek_le (s : Session) (target : Int64) : s.seek target ≤ s.size - 1 := by
  cases some : s.isEmpty with
  | true =>
    rw [seek_of_isEmpty some]
    exact Nat.zero_le _
  | false =>
    have inside := seek_lt some target
    omega

namespace Playhead

theorem play_cursor (p : Playhead) (s : Session) (speed : Float) :
    (p.play s speed).2.cursor = p.cursor := by
  unfold play
  split_ifs
  · rfl
  · rfl
  · cases pacing s.interval speed <;> rfl

theorem play_eq_ok {p : Playhead} {s : Session} {speed : Float} {pace : Span}
    (played : (p.play s speed).1 = .ok pace) :
    s.isEmpty = false ∧ (p.play s speed).2 = ⟨p.cursor, .playing speed⟩ := by
  unfold play at played ⊢
  split_ifs at played ⊢ with unusable empty
  refine ⟨Bool.not_eq_true _ ▸ empty, ?_⟩
  cases paced : pacing s.interval speed with
  | error cause =>
    rw [paced] at played
    cases played
  | ok pace => rfl

theorem Move.lands {α : Type} {move : Playhead → Session → Except ReplayError α × Playhead}
    (moves : Move move) {p : Playhead} {s : Session} (inside : p.cursor ≤ s.size - 1) :
    (move p s).2.cursor ≤ s.size - 1 := by
  cases moves with
  | seek target => exact s.seek_le target
  | step delta => exact s.seek_le _
  | jump name =>
    show (p.jump s name).2.cursor ≤ _
    unfold Playhead.jump
    cases s.bookmark? name with
    | none => exact inside
    | some bookmark =>
      dsimp only
      cases there : s.indexOf? bookmark.frame with
      | none => exact inside
      | some index => exact Nat.le_sub_one_of_lt (Ring.position?_lt there)
  | play speed =>
    show (p.play s speed).2.cursor ≤ _
    rwa [play_cursor]
  | pause => exact inside
  | advance =>
    show (p.advance s).2.cursor ≤ _
    have landed : (p.step s 1).2.cursor ≤ s.size - 1 := s.seek_le _
    unfold Playhead.advance
    split
    · exact inside
    · cases s.lastIndex? with
      | none => exact inside
      | some last =>
        dsimp only
        split_ifs
        · exact inside
        · exact landed
        · exact landed

end Playhead

-- A session later on. No position has lost its frame, and none has come to show an earlier one.
structure Session.GoesOn (s later : Session) : Prop where
  limit : later.maxSnapshots = s.maxSnapshots
  onward : ∀ {place : Nat} {frame : Frame}, s.frame? place = some frame →
    ∃ frame', later.frame? place = some frame' ∧ frame.number ≤ frame'.number

theorem Session.GoesOn.of_ring {s later : Session} (same : later.ring = s.ring) : s.GoesOn later where
  limit := congrArg Ring.capacity same
  onward := by
    intro place frame there
    exact ⟨frame, (congrArg (fun ring : Ring => ring.get? place) same).trans there, UInt64.le_refl _⟩

theorem Session.Orderly.before {s : Session} (orderly : s.Orderly) {place later : Nat}
    {frame frame' : Frame} (before : place < later) (there : s.frame? place = some frame)
    (there' : s.frame? later = some frame') : frame.number < frame'.number := by
  refine orderly.increasing.lt before ?_ ?_
  · rw [Ring.numbers, List.getElem?_map, show s.ring.frames[place]? = some frame from there]
    rfl
  · rw [Ring.numbers, List.getElem?_map, show s.ring.frames[later]? = some frame' from there']
    rfl

namespace Keeps

variable {take : Take} {s : Session}

theorem number_at (keeps : Keeps take s) (few : take.count < 2 ^ 64) {place : Nat} {frame : Frame}
    (there : s.frame? place = some frame) : frame.number.toNat = take.dropped + place + 1 := by
  have recorded : take.recorded[take.dropped + place]? = some frame := by
    rw [← Take.kept_get?, ← keeps.frames]
    exact there
  rw [Take.recorded_get?] at recorded
  obtain ⟨c, found, rfl⟩ := Option.map_eq_some_iff.mp recorded
  have inside : take.dropped + place < take.count := (List.getElem?_eq_some_iff.mp found).1
  exact UInt64.toNat_ofNat_of_lt' (show take.dropped + place + 1 < 2 ^ 64 by omega)

-- A capture shifts the frames by one place at most, and each frame is followed by the one after it.
theorem append_goesOn (keeps : Keeps take s) (few : take.count + 1 < 2 ^ 64) (content : Capture)
    (now : Instant) : s.GoesOn (s.append content now).1 := by
  have keeps' := keeps.append content now
  have longer : s.size ≤ (s.append content now).1.size := s.size_append content now
  refine ⟨keeps'.capacity.trans keeps.capacity.symm, ?_⟩
  intro place frame there
  have inside := Session.lt_size there
  obtain ⟨frame', there'⟩ : ∃ frame', (s.append content now).1.frame? place = some frame' :=
    ⟨_, List.getElem?_eq_getElem (Nat.lt_of_lt_of_le inside longer)⟩
  refine ⟨frame', there', UInt64.le_iff_toNat_le.mpr ?_⟩
  have number := keeps.number_at (by omega) there
  have number' := keeps'.number_at (by rw [Take.count_add]; exact few) there'
  rw [Take.dropped, Take.count_add] at number'
  rw [Take.dropped] at number
  change _ = take.count + 1 - take.limit.toNat + place + 1 at number'
  omega

end Keeps

namespace Playhead

-- What a move by itself answers with, and where it leaves the playhead.
inductive Advances (s : Session) (p : Playhead) : Option Frame → Playhead → Prop where
  | rests (paused : p.isPlaying = false) : Advances s p none p
  | ends (playing : p.isPlaying = true) (last : p.cursor + 1 = s.size) : Advances s p none p.pause
  | moves {frame : Frame} (playing : p.isPlaying = true)
      (there : s.frame? (p.cursor + 1) = some frame) :
      Advances s p (some frame)
        ⟨p.cursor + 1, if p.cursor + 2 < s.size then p.playback else .paused⟩

variable {s : Session} {p : Playhead}

theorem position_eq (short : s.size ≤ 2 ^ 63) (inside : p.cursor < s.size) :
    p.position s = p.cursor := by
  rw [position, Keeps.seek_saturated s short]
  omega

theorem moveTo_eq (short : s.size ≤ 2 ^ 63) {place : Nat} {frame : Frame}
    (there : s.frame? place = some frame) :
    p.moveTo s place = (.ok frame, { p with cursor := place }) := by
  have inside := Session.lt_size there
  have position : ({ p with cursor := place } : Playhead).position s = place :=
    position_eq short inside
  have still : s.seek (saturated place) = place := position
  simp only [moveTo, current, Session.frameAt, position, still, there]

-- A playhead that stands on a frame is never refused.
theorem advance_advances (short : s.size ≤ 2 ^ 63) (inside : p.cursor < s.size) :
    ∃ found after, p.advance s = (.ok found, after) ∧ Advances s p found after := by
  have ends := Session.lastIndex?_of_not_isEmpty (Session.isEmpty_of_lt_size inside)
  have position := position_eq short inside
  cases playing : p.isPlaying with
  | false => exact ⟨none, p, by simp [advance, playing], .rests playing⟩
  | true =>
    by_cases last : p.cursor + 1 = s.size
    · refine ⟨none, p.pause, ?_, .ends playing last⟩
      simp only [advance, playing, not_true_eq_false, if_false, ends, position]
      rw [if_pos (by omega)]
    · obtain ⟨frame, there⟩ : ∃ frame, s.frame? (p.cursor + 1) = Option.some frame :=
        ⟨_, List.getElem?_eq_getElem (show p.cursor + 1 < s.size by omega)⟩
      have stepped : s.step p.cursor 1 = p.cursor + 1 := by
        rw [Session.step_exact ends (by omega) (by omega), Session.clamped]
        show (max 0 (min ((p.cursor : Int) + 1) _)).toNat = _
        omega
      refine ⟨_, _, ?_, .moves playing there⟩
      simp only [advance, playing, not_true_eq_false, if_false, ends, position]
      rw [if_neg (by omega)]
      simp only [step, position, stepped, moveTo_eq short there, pause]
      by_cases more : p.cursor + 2 < s.size
      · rw [if_pos more, if_neg (by omega)]
        rfl
      · rw [if_neg more, if_pos (by omega)]
        rfl

end Playhead

end Chronomata
