import Chronomata.Proofs.TimeTravel.Exports
import Chronomata.Proofs.TimeTravel.Imports

-- A bookmark keeps the number of its frame. Every frame that is dropped shifts the positions of the others,
-- but a jump comes back to the very frame, or says that it is gone.
namespace Chronomata

namespace Session

-- A position that was clamped once stays where it is.
theorem seek_saturated_seek (s : Session) (target : Int64) :
    s.seek (saturated (s.seek target)) = s.seek target := by
  unfold seek
  cases s.lastIndex? with
  | none => rfl
  | some last =>
    have most := target.toInt_lt
    simp only [Int64.le_iff_toInt_le, Int64.toInt_zero, Keeps.saturated_toInt]
    split_ifs <;> omega

theorem bookmark?_addBookmark (s : Session) (bookmark : Bookmark) (name : String) :
    (s.addBookmark bookmark).bookmark? name =
      if bookmark.name = name then some bookmark else s.bookmark? name := by
  rw [bookmark?, addBookmark, List.reverse_append, List.reverse_singleton, List.singleton_append,
    List.find?_cons]
  split_ifs with same
  · rw [beq_iff_eq.mpr same]
  · rw [beq_eq_false_iff_ne.mpr same]
    rfl

end Session

namespace Take

variable {take later : Take}

-- A take that went on: there are more captures behind those it had.
def Grows (take later : Take) : Prop := take.captures <+: later.captures

theorem recorded_prefix (grows : take.Grows later) : take.recorded <+: later.recorded := by
  obtain ⟨more, whole⟩ := grows
  rw [recorded, recorded, ← whole, List.mapIdx_append]
  exact List.prefix_append _ _

-- Until the counter is used up, a number belongs to one frame only.
theorem eq_of_number (few : take.count < 2 ^ 64) {frame frame' : Frame}
    (member : frame ∈ take.recorded) (member' : frame' ∈ take.recorded)
    (same : frame'.number = frame.number) : frame' = frame := by
  have numbered : ∀ {frame : Frame} {place : Nat}, take.recorded[place]? = some frame →
      frame.number.toNat = place + 1 := by
    intro frame place there
    rw [recorded_get?] at there
    obtain ⟨c, found, rfl⟩ := Option.map_eq_some_iff.mp there
    have inside : place < take.count := (List.getElem?_eq_some_iff.mp found).1
    exact UInt64.toNat_ofNat_of_lt' (show place + 1 < 2 ^ 64 by omega)
  obtain ⟨place, there⟩ := List.getElem?_of_mem member
  obtain ⟨place', there'⟩ := List.getElem?_of_mem member'
  have places : place' = place := by
    have first := numbered there
    have second := numbered there'
    rw [same] at second
    omega
  rw [places, there] at there'
  exact (Option.some.inj there').symm

end Take

namespace TimeTravel

variable {t : TimeTravel} {id : SessionId} {name : String}

theorem follow_grows {entry : Entry} (spares : entry.operation.Spares id) (take : Take) :
    ∃ later, follow id (some take) entry = some later ∧ take.Grows later := by
  unfold follow
  split
  · rename_i other options _ _
    exact ⟨take, if_neg (show other ≠ id from spares), List.prefix_rfl⟩
  · split_ifs
    · exact ⟨_, rfl, List.prefix_append _ _⟩
    · exact ⟨take, rfl, List.prefix_rfl⟩
  · rename_i archive now answer
    exact ⟨take, if_neg (show archive.session.id ≠ id from spares), List.prefix_rfl⟩
  · exact ⟨take, rfl, List.prefix_rfl⟩

theorem take?_grows {before after : List Entry}
    (spared : ∀ entry ∈ after, entry.operation.Spares id) {take : Take}
    (taken : take? id before = some take) :
    ∃ later, take? id (before ++ after) = some later ∧ take.Grows later := by
  rw [take?, List.foldl_append, show before.foldl (follow id) none = some take from taken]
  clear taken
  induction after generalizing take with
  | nil => exact ⟨take, rfl, List.prefix_rfl⟩
  | cons entry after ih =>
    obtain ⟨next, followed, grows⟩ := follow_grows (spared entry List.mem_cons_self) take
    have spared : ∀ entry ∈ after, entry.operation.Spares id := fun entry member =>
      spared entry (List.mem_cons_of_mem _ member)
    obtain ⟨later, reached, on⟩ : ∃ later, after.foldl (follow id) (some next) = some later ∧
      next.Grows later := ih spared
    rw [List.foldl_cons, followed]
    exact ⟨later, reached, grows.trans on⟩

theorem Runs.passed {before after : List Entry} (runs : Runs t (before ++ after)) :
    ∃ t₀, Runs t₀ before := by
  induction after using List.reverseRecOn generalizing t with
  | nil => exact ⟨t, by simpa using runs⟩
  | append_singleton after entry ih =>
    rw [← List.append_assoc] at runs
    obtain ⟨earlier, reached, _⟩ := runs.last
    exact ih reached

-- A log says everything: it leads to one state.
theorem Runs.unique {t' : TimeTravel} {log : List Entry} (runs : Runs t log) (runs' : Runs t' log) :
    t' = t := by
  induction runs generalizing t' with
  | start =>
    generalize none : ([] : List Entry) = log at runs'
    cases runs' with
    | start => rfl
    | next => exact absurd none (by simp)
  | next _ operation now ih =>
    obtain ⟨earlier, reached, rfl⟩ := runs'.last
    rw [ih reached]

-- A number never comes to name another frame. A session that was started in the run numbers on; an imported
-- one is at rest.
theorem Runs.number_names {before after : List Entry} {t₀ : TimeTravel}
    (runs : Runs t (before ++ after)) (runs₀ : Runs t₀ before)
    (accepted : ∀ entry ∈ before, ∀ a, entry.operation = .importArchive a → a.Accepted)
    (spared : ∀ entry ∈ after, entry.operation.Spares id)
    (few : ∀ take, take? id (before ++ after) = some take → take.count < 2 ^ 64) {s₀ : Session}
    (known : t₀.session? id = some s₀) {frame : Frame} (member : frame ∈ s₀.frames) :
    ∃ s, t.session? id = some s ∧ s.Orderly ∧
      ∀ frame' ∈ s.frames, frame'.number = frame.number → frame' = frame := by
  rcases known_cases runs₀ accepted known with ⟨take, taken⟩ | ⟨rests, orderly⟩
  · obtain ⟨later, taken', grows⟩ := take?_grows spared taken
    obtain ⟨kept, known', keeps⟩ := (runs_sound runs₀).kept taken
    cases known.symm.trans known'
    obtain ⟨s, found, keeps'⟩ := (runs_sound runs).kept taken'
    refine ⟨s, found, keeps'.orderly (few later taken'), ?_⟩
    intro frame' member' same
    rw [Session.frames, keeps.frames] at member
    rw [Session.frames, keeps'.frames] at member'
    have earlier := (Take.recorded_prefix grows).subset (List.mem_of_mem_drop member)
    exact Take.eq_of_number (few later taken') earlier (List.mem_of_mem_drop member') same
  · obtain rfl : s₀.id = id := ((runs_sound runs₀).filed known).1
    obtain ⟨s, found, _, ring⟩ : Shows (.ofSession s₀ .epoch) t := by
      refine runs.kept ?_ ?_
      · intro t reached
        rw [runs₀.unique reached]
        exact ⟨s₀, known, rests, rfl⟩
      · intro t log entry member runs shows
        exact shows.perform runs entry.operation entry.now (spared entry member)
    have frames : s.frames = s₀.frames := congrArg Ring.frames ring
    refine ⟨s, found, ⟨?_, ?_⟩, ?_⟩
    · rw [ring]
      exact orderly.increasing
    · rw [Session.size, Session.maxSnapshots, ring]
      exact orderly.room
    · intro frame' member' same
      rw [frames] at member'
      obtain ⟨index, there⟩ := List.getElem?_of_mem member
      obtain ⟨index', there'⟩ := List.getElem?_of_mem member'
      obtain rfl := orderly.index_unique there there' same
      exact Option.some.inj (there'.symm.trans there)

-- A bookmark is the newest one under its name.
def Marked (id : SessionId) (bookmark : Bookmark) (t : TimeTravel) : Prop :=
  ∃ s, t.session? id = some s ∧ s.bookmark? bookmark.name = some bookmark

theorem Marked.perform {bookmark : Bookmark} {log : List Entry} (runs : Runs t log)
    (marked : Marked id bookmark t) (operation : Operation) (now : Instant)
    (spares : operation.Spares id) (other : operation ≠ .bookmark id bookmark.name) :
    Marked id bookmark (t.perform now operation).1 := by
  obtain ⟨s, found, newest⟩ := marked
  have becomes := perform_becomes (runs_sound runs) operation now id
  rw [found] at becomes
  unfold Marked
  generalize (t.perform now operation).1.session? id = after at becomes ⊢
  generalize line : (⟨operation, now, (t.perform now operation).2⟩ : Entry) = entry at becomes
  cases becomes with
  | stays => exact ⟨s, rfl, newest⟩
  | started options _ =>
    rw [show operation = _ from congrArg Entry.operation line] at spares
    exact absurd rfl spares
  | stopped records => exact ⟨_, rfl, newest⟩
  | captured records content => exact ⟨_, rfl, newest⟩
  | marked _ number name =>
    refine ⟨_, rfl, ?_⟩
    rw [Session.bookmark?_addBookmark, if_neg ?_]
    · exact newest
    · intro same
      rw [show operation = _ from congrArg Entry.operation line] at other
      exact other (congrArg _ same)
  | imported _ same =>
    rw [show operation = _ from congrArg Entry.operation line] at spares
    exact absurd same spares

theorem bookmark_eq_ok {now : Instant} {after : TimeTravel} {bookmark : Bookmark}
    (marked : t.bookmark id name now = .ok (after, bookmark)) :
    ∃ s p frame, t.find id = .ok (s, p) ∧ s.frame? (p.position s) = some frame ∧
      bookmark = ⟨frame.number, name, now⟩ ∧
      after = ⟨t.recorder.store (s.addBookmark bookmark), t.playheads⟩ := by
  cases found : t.find id with
  | error cause => simp only [TimeTravel.bookmark, found] at marked; cases marked
  | ok both =>
    obtain ⟨s, p⟩ := both
    rw [bookmark_eq found] at marked
    cases shown : p.current s with
    | error cause => simp only [shown] at marked; cases marked
    | ok frame =>
      simp only [shown, Except.ok.injEq, Prod.mk.injEq] at marked
      obtain ⟨rfl, rfl⟩ := marked
      refine ⟨s, p, frame, rfl, ?_, rfl, rfl⟩
      rw [Playhead.current, Session.frameAt, Playhead.position, Session.seek_saturated_seek] at shown
      cases there : s.frame? (p.position s) with
      | none => simp only [Playhead.position] at there; simp only [there] at shown; cases shown
      | some found =>
        simp only [Playhead.position] at there
        simp only [there, Except.ok.injEq] at shown
        rw [shown]

theorem Marked.set {before : List Entry} {now : Instant} {bookmark : Bookmark}
    (runs : Runs t (before ++ [⟨.bookmark id name, now, .marked (.ok bookmark)⟩])) :
    ∃ t₀ s₀ position frame, Runs t₀ before ∧ t₀.session? id = some s₀ ∧
      t₀.cursor id = .ok position ∧ s₀.frame? position = some frame ∧
      bookmark = ⟨frame.number, name, now⟩ ∧
      t.session? id = some (s₀.addBookmark bookmark) := by
  generalize whole : before ++ [_] = log at runs
  cases runs with
  | start => exact absurd whole (by simp)
  | @next t₀ log runs operation now' =>
    obtain ⟨rfl, last⟩ := List.append_inj' whole rfl
    simp only [List.cons.injEq, and_true, Entry.mk.injEq] at last
    obtain ⟨rfl, rfl, answered⟩ := last
    cases marked : t₀.bookmark id name now with
    | error cause =>
      simp only [TimeTravel.perform, marked, settle] at answered
      cases answered
    | ok both =>
      obtain ⟨after, told⟩ := both
      simp only [TimeTravel.perform, marked, settle, Answer.marked.injEq, Except.ok.injEq] at answered ⊢
      subst answered
      obtain ⟨s₀, p, frame, found, there, pinned, rfl⟩ := bookmark_eq_ok marked
      have known := find_eq_ok found
      refine ⟨t₀, s₀, p.position s₀, frame, runs, known, ?_, there, pinned, ?_⟩
      · rw [TimeTravel.cursor, found]
        rfl
      · rw [session?_store]
        exact if_pos ((runs_sound runs).filed known).1.symm

-- Whatever is done after a bookmark was set, as long as none of its name is set anew and its session is not
-- replaced: a jump shows the frame that the playhead stood on, and moves there, or it says that this
-- frame is gone, and moves nothing. The 64 bits of the frame counter must not have been used up, and
-- positions have 63 bits.
theorem bookmarked_exact {before after : List Entry} {now : Instant} {bookmark : Bookmark}
    (runs : Runs t (before ++ ⟨.bookmark id name, now, .marked (.ok bookmark)⟩ :: after))
    (accepted : ∀ entry ∈ before, ∀ a, entry.operation = .importArchive a → a.Accepted)
    (spared : ∀ entry ∈ after, entry.operation.Spares id)
    (newest : ∀ entry ∈ after, entry.operation ≠ .bookmark id name)
    (few : ∀ take,
      take? id (before ++ ⟨.bookmark id name, now, .marked (.ok bookmark)⟩ :: after) = some take →
        take.count < 2 ^ 64) :
    ∃ t₀ s₀ position frame, Runs t₀ before ∧ t₀.session? id = some s₀ ∧
      t₀.cursor id = .ok position ∧ s₀.frame? position = some frame ∧
      bookmark = ⟨frame.number, name, now⟩ ∧
      ∃ s, t.session? id = some s ∧ (s.frames.length ≤ 2 ^ 63 →
        (frame ∈ s.frames → ∃ index, s.frame? index = some frame ∧
          (t.jump id name).1 = .ok frame ∧ (t.jump id name).2.cursor id = .ok index) ∧
        (frame ∉ s.frames →
          t.jump id name = (.error (.replay (.bookmarkEvicted name frame.number)), t))) := by
  have split := runs
  rw [List.append_cons] at split
  obtain ⟨t₁, set⟩ := split.passed
  obtain ⟨t₀, s₀, position, frame, runs₀, known, stood, there, rfl, marks⟩ := Marked.set set
  have marked : Marked id ⟨frame.number, name, now⟩ t := by
    refine split.kept ?_ ?_
    · intro t reached
      rw [set.unique reached]
      refine ⟨_, marks, ?_⟩
      rw [Session.bookmark?_addBookmark, if_pos rfl]
    · intro t log entry member runs marked
      exact marked.perform runs entry.operation entry.now (spared entry member)
        (newest entry member)
  obtain ⟨s, found, orderly, only⟩ := runs.number_names runs₀ accepted
    (List.forall_mem_cons.mpr ⟨trivial, spared⟩) few known (List.mem_of_getElem? there)
  refine ⟨t₀, s₀, position, frame, runs₀, known, stood, there, rfl, s, found, ?_⟩
  intro short
  obtain ⟨s', found', newest⟩ := marked
  cases found.symm.trans found'
  obtain ⟨p, led, shown⟩ := find_of_session? (runs_sound runs) found
  refine ⟨?_, ?_⟩
  · intro kept
    obtain ⟨index, stands⟩ := List.getElem?_of_mem kept
    exact ⟨index, stands, jump_of_indexOf? shown newest
      (orderly.indexOf?_eq_some.mpr ⟨frame, stands, rfl⟩) stands short⟩
  · intro gone
    refine movePlayhead_stays led shown ?_
    have absent : s.indexOf? frame.number = none := orderly.indexOf?_eq_none fun frame' member same =>
      gone (only frame' member same ▸ member)
    simp only [Playhead.jump, newest, absent]

-- Two bookmarks in a session with two places; the frame of the first one is gone, the frame of the second
-- one has moved to the front.
def revisited : TimeTravel × List Entry :=
  [.start ⟨7⟩ ⟨.ofMilliseconds 100, 2⟩, .capture ⟨7⟩ .empty, .bookmark ⟨7⟩ "first",
    .capture ⟨7⟩ .empty, .seek ⟨7⟩ 1, .bookmark ⟨7⟩ "second", .capture ⟨7⟩ .empty].foldl
    (extend .epoch) (.empty, [])

theorem bookmarked_exact_revisited :
    revisited.1.jump ⟨7⟩ "first" = (.error (.replay (.bookmarkEvicted "first" 1)), revisited.1) ∧
      (revisited.1.jump ⟨7⟩ "second").1 = .ok (.ofCapture 2 .epoch .empty) ∧
      (revisited.1.jump ⟨7⟩ "second").2.cursor ⟨7⟩ = .ok 0 := by
  have runs : Runs revisited.1 revisited.2 := foldl_runs .epoch _ .start
  have first : revisited.2 = revisited.2.take 2 ++
      ⟨.bookmark ⟨7⟩ "first", .epoch, .marked (.ok ⟨1, "first", .epoch⟩)⟩ :: revisited.2.drop 3 := rfl
  have second : revisited.2 = revisited.2.take 5 ++
      ⟨.bookmark ⟨7⟩ "second", .epoch, .marked (.ok ⟨2, "second", .epoch⟩)⟩ :: revisited.2.drop 6 := rfl
  have counted : (take? ⟨7⟩ revisited.2).map (·.count) = some 3 := rfl
  have few : ∀ take, take? ⟨7⟩ revisited.2 = some take → take.count < 2 ^ 64 := by
    intro take taken
    rw [taken, Option.map_some] at counted
    rw [Option.some.inj counted]
    decide
  have operations : (revisited.2.take 5).map (·.operation) = [.start ⟨7⟩ ⟨.ofMilliseconds 100, 2⟩,
      .capture ⟨7⟩ .empty, .bookmark ⟨7⟩ "first", .capture ⟨7⟩ .empty, .seek ⟨7⟩ 1] := rfl
  have operations' : (revisited.2.drop 3).map (·.operation) = [.capture ⟨7⟩ .empty, .seek ⟨7⟩ 1,
      .bookmark ⟨7⟩ "second", .capture ⟨7⟩ .empty] := rfl
  have accepted : ∀ entry ∈ revisited.2.take 5, ∀ a, entry.operation = .importArchive a → a.Accepted := by
    intro entry member a imports
    have listed : entry.operation ∈ (revisited.2.take 5).map (·.operation) := List.mem_map_of_mem member
    rw [operations, imports] at listed
    simp at listed
  have behind : ∀ entry ∈ revisited.2.drop 3, entry.operation.Spares ⟨7⟩ ∧
      entry.operation ≠ .bookmark ⟨7⟩ "first" := by
    intro entry member
    have listed : entry.operation ∈ (revisited.2.drop 3).map (·.operation) := List.mem_map_of_mem member
    rw [operations'] at listed
    simp only [List.mem_cons, List.not_mem_nil, or_false] at listed
    rcases listed with same | same | same | same <;> rw [same] <;> simp [Operation.Spares]
  have last : ∀ entry ∈ revisited.2.drop 6, entry.operation = .capture ⟨7⟩ .empty := by
    intro entry member
    have listed : entry.operation ∈ (revisited.2.drop 6).map (·.operation) := List.mem_map_of_mem member
    exact List.mem_singleton.mp listed
  have runs' := runs
  have few' := few
  rw [first] at runs few
  rw [second] at runs' few'
  obtain ⟨_, _, _, frame, _, _, _, _, pinned, s, known, jumps⟩ := bookmarked_exact runs
    (fun entry member => accepted entry (List.take_subset_take_left _ (by decide) member))
    (fun entry member => (behind entry member).1) (fun entry member => (behind entry member).2) few
  obtain ⟨t₀, s₀, _, frame', passed, known₀, _, there, pinned', s', known', jumps'⟩ :=
    bookmarked_exact runs' accepted
      (fun entry member => by rw [last entry member]; trivial)
      (fun entry member => by rw [last entry member]; simp) few'
  have frames : s.frames = [.ofCapture 2 .epoch .empty, .ofCapture 3 .epoch .empty] := by
    obtain rfl := Option.some.inj (known.symm.trans rfl)
    rfl
  cases known.symm.trans known'
  have short : s.frames.length ≤ 2 ^ 63 := by
    rw [frames]
    decide
  have number : frame.number = 1 := (congrArg Bookmark.frame pinned).symm
  have number' : frame'.number = 2 := (congrArg Bookmark.frame pinned').symm
  have frames₀ : s₀.frames = [.ofCapture 1 .epoch .empty, .ofCapture 2 .epoch .empty] := by
    have reached : Runs _ (revisited.2.take 5) := foldl_runs .epoch
      [.start ⟨7⟩ ⟨.ofMilliseconds 100, 2⟩, .capture ⟨7⟩ .empty, .bookmark ⟨7⟩ "first",
        .capture ⟨7⟩ .empty, .seek ⟨7⟩ 1] .start
    rw [reached.unique passed] at known₀
    obtain rfl := Option.some.inj (known₀.symm.trans rfl)
    rfl
  have same : frame' = .ofCapture 2 .epoch .empty := by
    have member : frame' ∈ s₀.frames := List.mem_of_getElem? there
    rw [frames₀, List.mem_pair] at member
    rcases member with rfl | rfl
    · cases number'
    · rfl
  have kept : frame' ∈ s.frames := by
    rw [same, frames]
    exact List.mem_cons_self
  have gone : frame ∉ s.frames := by
    intro member
    rw [frames, List.mem_pair] at member
    rcases member with rfl | rfl <;> cases number
  obtain ⟨index, stands, shown, moved⟩ := (jumps' short).1 kept
  have front : index = 0 := by
    have there : s.frames[index]? = some frame' := stands
    rw [frames, same] at there
    rcases index with _ | _ | index
    · rfl
    · cases there
    · cases there
  have refused := (jumps short).2 gone
  rw [number] at refused
  rw [same] at shown
  rw [front] at moved
  exact ⟨refused, shown, moved⟩

end TimeTravel

end Chronomata
