import Chronomata.Proofs.TimeTravel.Playheads

-- Playback in a run. A playhead that was started and is then left to itself comes to later and later frames
-- while captures go on, and it comes to rest before it has made as many moves as its session has places.
namespace Chronomata.TimeTravel

variable {t : TimeTravel} {id : SessionId}

-- How far a playhead came from a frame at a position: to later and later frames, one place further each time.
structure Reaches (limit : UInt64) (c : Nat) (frame : Frame) (frames : List Frame) (s : Session)
    (p : Playhead) : Prop where
  limit : s.maxSnapshots = limit
  cursor : p.cursor = c + frames.length
  onward : (frame :: frames).Pairwise fun earlier later => earlier.number < later.number
  stands : ∃ last, s.frame? p.cursor = some last ∧
    ∀ earlier ∈ frame :: frames, earlier.number ≤ last.number

namespace Reaches

variable {limit : UInt64} {c : Nat} {frame : Frame} {frames : List Frame} {s s' : Session}
  {p p' : Playhead} {entry : Entry}

theorem start (there : s.frame? p.cursor = some frame) :
    Reaches s.maxSnapshots p.cursor frame [] s p where
  limit := rfl
  cursor := rfl
  onward := List.pairwise_singleton _ _
  stands := by
    refine ⟨frame, there, ?_⟩
    intro earlier member
    rw [List.mem_singleton.mp member]
    exact UInt64.le_refl _

theorem inside (reaches : Reaches limit c frame frames s p) : p.cursor < s.size := by
  obtain ⟨last, there, _⟩ := reaches.stands
  exact Session.lt_size there

theorem goesOn (reaches : Reaches limit c frame frames s p) (on : s.GoesOn s') :
    Reaches limit c frame frames s' p := by
  obtain ⟨last, there, latest⟩ := reaches.stands
  obtain ⟨last', there', later⟩ := on.onward there
  refine ⟨on.limit.trans reaches.limit, reaches.cursor, reaches.onward, last', there', ?_⟩
  intro earlier member
  exact UInt64.le_trans (latest earlier member) later

theorem moves (reaches : Reaches limit c frame frames s p) (orderly : s.Orderly) {next : Frame}
    (there' : s.frame? (p.cursor + 1) = some next) {playback : Playback} :
    Reaches limit c frame (frames ++ [next]) s ⟨p.cursor + 1, playback⟩ := by
  obtain ⟨last, there, latest⟩ := reaches.stands
  have later : ∀ earlier ∈ frame :: frames, earlier.number < next.number := by
    intro earlier member
    exact UInt64.lt_of_le_of_lt (latest earlier member) (orderly.before (Nat.lt_succ_self _) there there')
  refine ⟨reaches.limit, ?_, ?_, next, there', ?_⟩
  · rw [List.length_append, List.length_singleton, reaches.cursor, Nat.add_assoc]
  · rw [← List.cons_append]
    refine List.pairwise_append.mpr ⟨reaches.onward, List.pairwise_singleton _ _, ?_⟩
    intro earlier member latter single
    rw [List.mem_singleton.mp single]
    exact later earlier member
  · intro earlier member
    rw [← List.cons_append, List.mem_append, List.mem_singleton] at member
    rcases member with member | rfl
    · exact UInt64.le_of_lt (later earlier member)
    · exact UInt64.le_refl _

theorem of_cursor (reaches : Reaches limit c frame frames s p) (same : p'.cursor = p.cursor) :
    Reaches limit c frame frames s p' :=
  ⟨reaches.limit, same.trans reaches.cursor, reaches.onward, same ▸ reaches.stands⟩

theorem leads (leads : Leads id s p entry s' p') (reaches : Reaches limit c frame frames s p) :
    Reaches limit c frame (frames ++ playedBack id [entry]) s' p' := by
  refine goesOn ?_ leads.goesOn
  obtain ⟨orderly, _, _, steers⟩ := leads
  cases steers with
  | stays quiet =>
    rw [playedBack_of_quiet quiet, List.append_nil]
    exact reaches
  | played same =>
    rw [playedBack_of_quiet rfl, List.append_nil]
    exact reaches.of_cursor same
  | paused =>
    rw [playedBack_of_quiet rfl, List.append_nil]
    exact reaches.of_cursor rfl
  | advanced moves =>
    rw [playedBack_advanced]
    cases moves with
    | rests =>
      rw [Option.toList_none, List.append_nil]
      exact reaches
    | ends =>
      rw [Option.toList_none, List.append_nil]
      exact reaches.of_cursor rfl
    | moves _ there => exact reaches.moves orderly there

theorem lt_limit (reaches : Reaches limit c frame frames s p) (orderly : s.Orderly) :
    c + frames.length < limit.toNat := by
  have inside := reaches.inside
  have room := orderly.room
  rw [reaches.limit] at room
  rw [reaches.cursor] at inside
  omega

end Reaches

-- What a playhead answers that is not started again: frames, and then nothing any more.
def Ends (id : SessionId) (log : List Entry) (p : Playhead) : Prop :=
  ∃ rests, advances id log =
      (playedBack id log).map (fun frame => .ok (some frame)) ++ List.replicate rests (.ok none) ∧
    (0 < rests → p.isPlaying = false)

theorem Ends.leads {log : List Entry} {entry : Entry} {s s' : Session} {p p' : Playhead}
    (leads : Leads id s p entry s' p') (once : ∀ speed, entry.operation ≠ .play id speed)
    (ends : Ends id log p) : Ends id (log ++ [entry]) p' := by
  obtain ⟨rests, answers, rested⟩ := ends
  unfold Ends
  rw [advances_append, playedBack_append]
  cases leads.steers with
  | stays quiet =>
    rw [playedBack_of_quiet quiet, quiet, List.append_nil, List.append_nil]
    exact ⟨rests, answers, rested⟩
  | @played speed => exact absurd rfl (once speed)
  | paused =>
    rw [playedBack_of_quiet rfl, List.append_nil]
    exact ⟨rests, (List.append_nil _).trans answers, fun _ => rfl⟩
  | advanced moves =>
    rw [playedBack_advanced, advances_advanced, answers]
    cases moves with
    | rests paused =>
      refine ⟨rests + 1, ?_, fun _ => paused⟩
      rw [Option.toList_none, List.append_nil, List.replicate_succ', List.append_assoc]
    | ends =>
      refine ⟨rests + 1, ?_, fun _ => rfl⟩
      rw [Option.toList_none, List.append_nil, List.replicate_succ', List.append_assoc]
    | moves playing =>
      obtain rfl : rests = 0 := by
        refine Nat.eq_zero_of_not_pos fun some => ?_
        cases playing.symm.trans (rested some)
      refine ⟨0, ?_, fun none => absurd none (Nat.lt_irrefl 0)⟩
      simp

-- What a playhead comes to while nothing is captured: the frames behind the one it started from, one after
-- the other, until it comes to rest on the last one.
structure Watches (id : SessionId) (c : Nat) (first : Session) (log : List Entry) (s : Session)
    (p : Playhead) : Prop where
  ring : s.ring = first.ring
  frames : playedBack id log = (first.frames.drop (c + 1)).take (advances id log).length
  playing : p.isPlaying =
    decide ((advances id log).length = 0 ∨ c + 1 + (advances id log).length < first.size)

-- Once there is no frame left, nothing is added and nothing goes on.
theorem Watches.ended {c moves : Nat} {frames : List Frame} {playing : Bool}
    (behind : frames.length ≤ c + 1 + moves) (rests : playing = false) :
    (frames.drop (c + 1)).take moves = (frames.drop (c + 1)).take (moves + 1) ∧
      playing = decide (moves + 1 = 0 ∨ c + 1 + (moves + 1) < frames.length) := by
  have length : (frames.drop (c + 1)).length = frames.length - (c + 1) := List.length_drop
  refine ⟨?_, ?_⟩
  · rw [List.take_of_length_le (by omega), List.take_of_length_le (by omega)]
  · rw [rests, eq_comm]
    exact decide_eq_false (by omega)

theorem Watches.leads {c : Nat} {first : Session} {log : List Entry} {entry : Entry} {s s' : Session}
    {p p' : Playhead} {limit : UInt64} {frame : Frame} (leads : Leads id s p entry s' p')
    (once : ∀ speed, entry.operation ≠ .play id speed) (unpaused : entry.operation ≠ .pause id)
    (uncaptured : ∀ content, entry.operation ≠ .capture id content)
    (reaches : Reaches limit c frame (playedBack id log) s p) (watches : Watches id c first log s p) :
    Watches id c first (log ++ [entry]) s' p' := by
  obtain ⟨ring, frames, playing⟩ := watches
  suffices both : playedBack id (log ++ [entry]) =
      (first.frames.drop (c + 1)).take (advances id (log ++ [entry])).length ∧
      p'.isPlaying = decide ((advances id (log ++ [entry])).length = 0 ∨
        c + 1 + (advances id (log ++ [entry])).length < first.size) from
    ⟨(leads.still uncaptured).trans ring, both.1, both.2⟩
  rw [advances_append, playedBack_append]
  cases leads.steers with
  | stays quiet =>
    rw [playedBack_of_quiet quiet, quiet, List.append_nil, List.append_nil]
    exact ⟨frames, playing⟩
  | @played speed => exact absurd rfl (once speed)
  | paused => exact absurd rfl unpaused
  | advanced moves =>
    rw [playedBack_advanced, advances_advanced, List.length_append, List.length_singleton]
    have size : s.size = first.size := congrArg Ring.size ring
    have inside := reaches.inside
    have cursor := reaches.cursor
    have length : (first.frames.drop (c + 1)).length = first.size - (c + 1) := List.length_drop
    rw [frames, List.length_take, length] at cursor
    cases moves with
    | rests paused =>
      rw [paused, eq_comm, decide_eq_false_iff_not] at playing
      have behind : first.size ≤ c + 1 + (advances id log).length := by omega
      rw [Option.toList_none, List.append_nil, frames]
      exact Watches.ended behind paused
    | ends _ last =>
      have behind : first.size ≤ c + 1 + (advances id log).length := by omega
      rw [Option.toList_none, List.append_nil, frames]
      exact Watches.ended behind rfl
    | @moves next on there =>
      have before := Session.lt_size there
      rw [on, eq_comm, decide_eq_true_iff] at playing
      have stood : p.cursor = c + (advances id log).length := by omega
      have comes : (first.frames.drop (c + 1))[(advances id log).length]? = some next := by
        rw [List.getElem?_drop, show c + 1 + (advances id log).length = p.cursor + 1 by omega]
        exact (congrArg (fun ring : Ring => ring.get? (p.cursor + 1)) ring).symm.trans there
      refine ⟨?_, ?_⟩
      · rw [List.take_add_one, comes, frames]
      · rw [size, stood, show c + (advances id log).length + 2 = c + 1 + ((advances id log).length + 1)
          by omega]
        by_cases more : c + 1 + ((advances id log).length + 1) < first.size
        · rw [if_pos more]
          exact on.trans (decide_eq_true (.inr more)).symm
        · rw [if_neg more]
          exact (decide_eq_false (by omega)).symm

-- From a point of a run on, behind which the playhead moves only by itself. What every line keeps besides holds
-- at the end as well.
theorem Bounded.kept {before after : List Entry} (bounded : Bounded id t (before ++ after))
    (lets : ∀ entry ∈ after, entry.operation.LetsMove id)
    (holds : List Entry → Session → Playhead → Prop) {t₀ : TimeTravel} (runs₀ : Runs t₀ before)
    {s₀ : Session} {p₀ : Playhead} {frame : Frame} (found₀ : t₀.find id = .ok (s₀, p₀))
    (there : s₀.frame? p₀.cursor = some frame) (first : holds [] s₀ p₀)
    (keeps : ∀ {passed entry s p s' p'}, entry ∈ after → Leads id s p entry s' p' →
      Reaches s₀.maxSnapshots p₀.cursor frame (playedBack id passed) s p → holds passed s p →
      holds (passed ++ [entry]) s' p') :
    ∃ s p, t.find id = .ok (s, p) ∧
      Reaches s₀.maxSnapshots p₀.cursor frame (playedBack id after) s p ∧ holds after s p := by
  induction after using List.reverseRecOn generalizing t with
  | nil =>
    rw [List.append_nil] at bounded
    rw [runs₀.unique bounded.runs]
    exact ⟨s₀, p₀, found₀, .start there, first⟩
  | append_singleton after entry ih =>
    rw [← List.append_assoc] at bounded
    obtain ⟨earlier, reached, leads⟩ := bounded.leads (lets entry (by simp))
    obtain ⟨s, p, found, reaches, held⟩ := ih reached
      (fun entry member => lets entry (by simp [member])) fun member => keeps (by simp [member])
    obtain ⟨s', p', found', led⟩ := leads found (Session.isEmpty_of_lt_size reaches.inside)
    refine ⟨s', p', found', ?_, keeps (by simp) led reaches held⟩
    rw [playedBack_append]
    exact reaches.leads led

theorem Bounded.passed {before after : List Entry} (bounded : Bounded id t (before ++ after))
    (lets : ∀ entry ∈ after, entry.operation.LetsMove id) {t₀ : TimeTravel} (runs₀ : Runs t₀ before) :
    Bounded id t₀ before := by
  induction after using List.reverseRecOn generalizing t with
  | nil =>
    rw [List.append_nil] at bounded
    exact runs₀.unique bounded.runs ▸ bounded
  | append_singleton after entry ih =>
    rw [← List.append_assoc] at bounded
    obtain ⟨earlier, reached, _⟩ := bounded.leads (lets entry (by simp))
    exact ih reached fun entry member => lets entry (by simp [member])

theorem Bounded.cursor_eq {log : List Entry} (bounded : Bounded id t log) {s : Session} {p : Playhead}
    (found : t.find id = .ok (s, p)) (some : s.isEmpty = false) :
    p.cursor < s.size ∧ t.cursor id = .ok p.cursor := by
  have stands := bounded.runs.inside.stands found
  have positive := Session.size_pos some
  have inside : p.cursor < s.size := by omega
  have position : p.position s = p.cursor :=
    Playhead.position_eq (bounded.short s (find_eq_ok found)) inside
  refine ⟨inside, ?_⟩
  rw [cursor, found, ← position]
  rfl

theorem isPlaying_eq {s : Session} {p : Playhead} (found : t.find id = .ok (s, p)) :
    t.isPlaying id = .ok p.isPlaying := by
  rw [isPlaying, found]
  rfl

theorem play_eq_ok {speed : Float} {pace : Span} (played : (t.play id speed).1 = .ok pace) :
    ∃ s p, t.find id = .ok (s, p) ∧ s.isEmpty = false ∧
      (t.play id speed).2.find id = .ok (s, ⟨p.cursor, .playing speed⟩) := by
  cases found : t.find id with
  | error cause =>
    rw [play, movePlayhead, found] at played
    cases played
  | ok both =>
    obtain ⟨s, p⟩ := both
    obtain ⟨told, led⟩ := movePlayhead_found found fun p s => p.play s speed
    have known : (t.play id speed).2.session? id = some s :=
      (session?_movePlayhead t id _ id).trans (find_eq_ok found)
    have paced : (p.play s speed).1 = .ok pace := by
      cases outcome : (p.play s speed).1 with
      | error cause =>
        rw [outcome] at told
        cases told.symm.trans played
      | ok paced =>
        rw [outcome] at told
        cases told.symm.trans played
        rfl
    obtain ⟨some, playing⟩ := Playhead.play_eq_ok paced
    exact ⟨s, p, rfl, some, Paired.find_eq_ok_iff.mpr ⟨known, playing ▸ led⟩⟩

-- From any point on, behind which the playhead moves only by itself.
theorem Bounded.reaches {before after : List Entry} (bounded : Bounded id t (before ++ after))
    (lets : ∀ entry ∈ after, entry.operation.LetsMove id) {t₀ : TimeTravel} (runs₀ : Runs t₀ before)
    {s₀ : Session} {c : Nat} {frame : Frame} (known : t₀.session? id = some s₀)
    (stands : t₀.cursor id = .ok c) (there : s₀.frame? c = some frame) :
    ∃ s p, t.find id = .ok (s, p) ∧
      Reaches s₀.maxSnapshots c frame (playedBack id after) s p := by
  have bounded₀ := bounded.passed lets runs₀
  obtain ⟨p₀, _, found⟩ := find_of_session? (runs_sound runs₀) known
  have some := Session.isEmpty_of_lt_size (Session.lt_size there)
  obtain rfl : p₀.cursor = c :=
    Except.ok.inj ((bounded₀.cursor_eq found some).2.symm.trans stands)
  obtain ⟨s, p, reached, reaches, _⟩ :=
    bounded.kept lets (fun _ _ _ => True) runs₀ found there trivial fun _ _ _ _ => trivial
  exact ⟨s, p, reached, reaches⟩

theorem Runs.played {before : List Entry} {speed : Float} {now : Instant} {pace : Span}
    (runs : Runs t (before ++ [⟨.play id speed, now, .paced (.ok pace)⟩])) :
    ∃ t₀ s p, Runs t₀ before ∧ t₀.find id = .ok (s, p) ∧ s.isEmpty = false ∧
      t.find id = .ok (s, ⟨p.cursor, .playing speed⟩) := by
  obtain ⟨t₀, runs₀, rfl, line⟩ := runs.answered
  have answer : Answer.paced (.ok pace) = .paced (t₀.play id speed).1 := congrArg Entry.answer line
  obtain ⟨s, p, found, some, playing⟩ := play_eq_ok (Answer.paced.inj answer).symm
  exact ⟨t₀, s, p, runs₀, found, some, playing⟩

-- A playhead that was started, and that is then neither moved by hand nor started again, comes to frames with
-- ever higher numbers, higher than those of all frames it stood on since it was last moved by hand. It comes to
-- no more of them than its session has places behind it, and when it has answered that there is none, it rests
-- and answers so ever after. As long as nothing is captured, the frames are the ones behind it, each in its
-- turn, and it rests on the last one. Numbers have 64 bits and positions have 63.
theorem played_exact {before after : List Entry} {speed : Float} {now : Instant} {pace : Span}
    (runs : Runs t (before ++ ⟨.play id speed, now, .paced (.ok pace)⟩ :: after))
    (accepted : ∀ entry ∈ before ++ ⟨.play id speed, now, .paced (.ok pace)⟩ :: after,
      ∀ a, entry.operation = .importArchive a → a.Accepted)
    (lets : ∀ entry ∈ after, entry.operation.LetsMove id)
    (once : ∀ entry ∈ after, ∀ speed, entry.operation ≠ .play id speed)
    (few : ∀ take,
      take? id (before ++ ⟨.play id speed, now, .paced (.ok pace)⟩ :: after) = some take →
        take.count < 2 ^ 64)
    (short : ∀ s, t.session? id = some s → s.frames.length ≤ 2 ^ 63) :
    ∃ t₀ s₀ c f₀, Runs t₀ before ∧ t₀.session? id = some s₀ ∧ t₀.cursor id = .ok c ∧
      s₀.frame? c = some f₀ ∧
      (f₀ :: playedBack id after).Pairwise (fun earlier later => earlier.number < later.number) ∧
      (∀ earlier still, before = earlier ++ still →
        (∀ entry ∈ still, entry.operation.LetsMove id) →
        ∀ t₁ s₁ c₁ f₁, Runs t₁ earlier → t₁.session? id = some s₁ → t₁.cursor id = .ok c₁ →
          s₁.frame? c₁ = some f₁ →
          (f₁ :: playedBack id (still ++ after)).Pairwise
            fun earlier later => earlier.number < later.number) ∧
      c + (playedBack id after).length < s₀.maxSnapshots.toNat ∧
      t.cursor id = .ok (c + (playedBack id after).length) ∧
      (∃ rests, advances id after =
          (playedBack id after).map (fun frame => .ok (some frame)) ++
            List.replicate rests (.ok none) ∧
        (0 < rests → t.isPlaying id = .ok false)) ∧
      ((∀ entry ∈ after, entry.operation ≠ .pause id ∧
          ∀ content, entry.operation ≠ .capture id content) →
        playedBack id after = (s₀.frames.drop (c + 1)).take (advances id after).length ∧
        t.isPlaying id = .ok (decide ((advances id after).length = 0 ∨
          c + 1 + (advances id after).length < s₀.size))) := by
  have bounded : Bounded id t _ := ⟨runs, accepted, few, short⟩
  have behind : ∀ {still : List Entry}, (∀ entry ∈ still, entry.operation.LetsMove id) →
      ∀ entry ∈ still ++ ⟨.play id speed, now, .paced (.ok pace)⟩ :: after,
        entry.operation.LetsMove id := by
    intro still stills entry member
    rcases List.mem_append.mp member with member | member
    · exact stills entry member
    · exact List.forall_mem_cons.mpr ⟨trivial, lets⟩ entry member
  have begun := bounded
  rw [List.append_cons] at begun
  obtain ⟨t₁, started⟩ := begun.runs.passed
  obtain ⟨t₀, s₀, p₀, runs₀, found₀, some, found₁⟩ := started.played
  obtain ⟨inside, stands⟩ :=
    (bounded.passed (behind (List.forall_mem_nil _)) runs₀).cursor_eq found₀ some
  obtain ⟨f₀, there⟩ : ∃ f₀, s₀.frame? p₀.cursor = .some f₀ := ⟨_, List.getElem?_eq_getElem inside⟩
  have later : ∀ {earlier still : List Entry}, before = earlier ++ still →
      (∀ entry ∈ still, entry.operation.LetsMove id) →
      ∀ {t₁ s₁ c₁ f₁}, Runs t₁ earlier → t₁.session? id = .some s₁ → t₁.cursor id = .ok c₁ →
        s₁.frame? c₁ = .some f₁ → ∃ s p, t.find id = .ok (s, p) ∧
          Reaches s₁.maxSnapshots c₁ f₁ (playedBack id (still ++ after)) s p := by
    rintro earlier still rfl stills t₁ s₁ c₁ f₁ runs₁ known₁ stands₁ there₁
    rw [List.append_assoc] at bounded
    have reached := bounded.reaches (behind stills) runs₁ known₁ stands₁ there₁
    rwa [playedBack_append, show playedBack id (_ :: after) = playedBack id after from rfl,
      ← playedBack_append] at reached
  obtain ⟨s, p, found, reaches⟩ : ∃ s p, t.find id = .ok (s, p) ∧
      Reaches s₀.maxSnapshots p₀.cursor f₀ (playedBack id after) s p :=
    later (List.append_nil _).symm (List.forall_mem_nil _) runs₀ (find_eq_ok found₀) stands there
  refine ⟨t₀, s₀, p₀.cursor, f₀, runs₀, find_eq_ok found₀, stands, there, reaches.onward, ?_,
    reaches.lt_limit (runs.orderly accepted few (find_eq_ok found)), ?_, ?_, ?_⟩
  · intro earlier still split stills t₁ s₁ c₁ f₁ runs₁ known₁ stands₁ there₁
    obtain ⟨_, _, _, reaches⟩ := later split stills runs₁ known₁ stands₁ there₁
    exact reaches.onward
  · rw [(bounded.cursor_eq found (Session.isEmpty_of_lt_size reaches.inside)).2, reaches.cursor]
  · obtain ⟨_, _, found', _, rests, answers, rested⟩ :=
      begun.kept lets (fun passed _ p => Ends id passed p) started found₁ there
        ⟨0, rfl, fun none => absurd none (Nat.lt_irrefl 0)⟩
        fun member leads _ ends => ends.leads leads (once _ member)
    cases found.symm.trans found'
    exact ⟨rests, answers, fun some => isPlaying_eq found ▸ congrArg Except.ok (rested some)⟩
  · intro undisturbed
    obtain ⟨_, _, found', _, watches⟩ :=
      begun.kept lets (Watches id p₀.cursor s₀) started found₁ there ⟨rfl, rfl, rfl⟩
        fun member leads reaches watches => watches.leads leads (once _ member)
          (undisturbed _ member).1 (undisturbed _ member).2 reaches
    cases found.symm.trans found'
    exact ⟨watches.frames, isPlaying_eq found ▸ congrArg Except.ok watches.playing⟩

-- A session with three places, played from its first frame on. The capture behind the first move drops that
-- frame, so that the playhead comes to stand on the third one and moves on to the fourth, which is the last. The
-- second capture adds a frame behind the playhead, which rests already.
def rewound : TimeTravel × List Entry :=
  [.start ⟨7⟩ ⟨.ofMilliseconds 100, 3⟩, .capture ⟨7⟩ .empty, .capture ⟨7⟩ .empty,
    .capture ⟨7⟩ .empty, .seek ⟨7⟩ 0].foldl (extend .epoch) (.empty, [])

def watched : TimeTravel × List Entry :=
  [.play ⟨7⟩ 1, .advance ⟨7⟩, .capture ⟨7⟩ .empty, .advance ⟨7⟩, .advance ⟨7⟩,
    .capture ⟨7⟩ .empty, .advance ⟨7⟩].foldl (extend .epoch) rewound

set_option maxRecDepth 4000 in
theorem played_exact_watched :
    advances ⟨7⟩ (watched.2.drop 6) = [.ok (some (.ofCapture 2 .epoch .empty)),
        .ok (some (.ofCapture 4 .epoch .empty)), .ok none, .ok none] ∧
      watched.1.cursor ⟨7⟩ = .ok 2 ∧ watched.1.isPlaying ⟨7⟩ = .ok false := by
  have begun : Runs rewound.1 rewound.2 := foldl_runs .epoch _ .start
  have runs : Runs watched.1 watched.2 := foldl_runs .epoch _ begun
  have paced : (rewound.1.play ⟨7⟩ 1).1 = .ok (.ofMilliseconds 100) := by decide +kernel
  have split : watched.2 =
      rewound.2 ++ ⟨.play ⟨7⟩ 1, .epoch, .paced (rewound.1.play ⟨7⟩ 1).1⟩ :: watched.2.drop 6 := rfl
  have operations : watched.2.map (·.operation) = [.start ⟨7⟩ ⟨.ofMilliseconds 100, 3⟩,
      .capture ⟨7⟩ .empty, .capture ⟨7⟩ .empty, .capture ⟨7⟩ .empty, .seek ⟨7⟩ 0, .play ⟨7⟩ 1,
      .advance ⟨7⟩, .capture ⟨7⟩ .empty, .advance ⟨7⟩, .advance ⟨7⟩, .capture ⟨7⟩ .empty,
      .advance ⟨7⟩] := rfl
  have accepted : ∀ entry ∈ watched.2, ∀ a, entry.operation = .importArchive a → a.Accepted := by
    intro entry member a imports
    have listed : entry.operation ∈ watched.2.map (·.operation) := List.mem_map_of_mem member
    rw [operations, imports] at listed
    simp at listed
  have behind : ∀ entry ∈ watched.2.drop 6,
      entry.operation = .advance ⟨7⟩ ∨ entry.operation = .capture ⟨7⟩ .empty := by
    intro entry member
    have listed : entry.operation ∈ (watched.2.drop 6).map (·.operation) :=
      List.mem_map_of_mem member
    rw [List.map_drop, operations] at listed
    simp only [List.drop_succ_cons, List.drop_zero, List.mem_cons, List.not_mem_nil, or_false] at listed
    tauto
  have lets : ∀ entry ∈ watched.2.drop 6, entry.operation.LetsMove ⟨7⟩ := by
    intro entry member
    rcases behind entry member with same | same <;> (rw [same]; exact trivial)
  have once : ∀ entry ∈ watched.2.drop 6, ∀ speed, entry.operation ≠ .play ⟨7⟩ speed := by
    intro entry member speed
    rcases behind entry member with same | same <;> simp [same]
  have counted : (take? ⟨7⟩ watched.2).map (·.count) = some 5 := rfl
  have few : ∀ take, take? ⟨7⟩ watched.2 = some take → take.count < 2 ^ 64 := by
    intro take taken
    rw [taken, Option.map_some] at counted
    rw [Option.some.inj counted]
    decide
  have held : (watched.1.session? ⟨7⟩).map (·.frames.length) = some 3 := by decide +kernel
  have short : ∀ s, watched.1.session? ⟨7⟩ = some s → s.frames.length ≤ 2 ^ 63 := by
    intro s known
    rw [known, Option.map_some] at held
    rw [Option.some.inj held]
    decide
  have answers : advances ⟨7⟩ (watched.2.drop 6) = [.ok (some (.ofCapture 2 .epoch .empty)),
      .ok (some (.ofCapture 4 .epoch .empty)), .ok none, .ok none] := by decide +kernel
  have frames : playedBack ⟨7⟩ (watched.2.drop 6) =
      [.ofCapture 2 .epoch .empty, .ofCapture 4 .epoch .empty] := by
    rw [playedBack, answers]
    rfl
  rw [paced] at split
  rw [split] at runs accepted few
  obtain ⟨t₀, _, c, _, runs₀, _, stands, _, _, _, _, stood, ⟨rests, answered, rested⟩, _⟩ :=
    played_exact runs accepted lets once few short
  obtain rfl : t₀ = rewound.1 := begun.unique runs₀
  obtain rfl : c = 0 := by
    have front : rewound.1.cursor ⟨7⟩ = .ok 0 := by decide +kernel
    exact Except.ok.inj (stands.symm.trans front)
  have ended : rests = 2 := by
    have length := congrArg List.length answered
    rw [answers, frames] at length
    simp at length
    omega
  rw [frames] at stood
  exact ⟨answers, stood, rested (by omega)⟩

end Chronomata.TimeTravel
