import Chronomata.Proofs.Recording.Search
import Chronomata.Replay
import Mathlib.Algebra.Group.Int.Defs
import Mathlib.Algebra.Group.Nat.Defs
import Mathlib.Data.List.Basic

-- A recording keeps the newest captures up to its limit. Numbers and counts are words of 64 bits and wrap as
-- such; only looking a number up needs that they have not wrapped yet.
namespace Chronomata

-- A capture that succeeded: when, what it was given, and what it reported.
structure Captured where
  now : Instant
  content : Capture
  report : CaptureReport
  deriving DecidableEq

-- The frame of a capture shows all that the capture was given, and nothing else.
def Captured.frame (c : Captured) (number : UInt64) : Frame where
  number := number
  timestamp := c.now
  executions := c.content.executions
  devices := c.content.devices
  communications := c.content.communications
  events := c.content.events

-- A session as its caller knows it: the limit it was started with, and every capture since.
structure Take where
  limit : UInt64
  captures : List Captured
  deriving DecidableEq

namespace Take

-- Every frame that was ever recorded, numbered from one on.
def recorded (take : Take) : List Frame :=
  take.captures.mapIdx fun place c => c.frame (.ofNat (place + 1))

def count (take : Take) : Nat := take.captures.length

def dropped (take : Take) : Nat := take.count - take.limit.toNat

def kept (take : Take) : List Frame := take.recorded.drop take.dropped

-- What the capture with a number has to report.
def reportAt (take : Take) (number : Nat) : CaptureReport :=
  ⟨.ofNat number,
    if take.limit.toNat < number then some (.ofNat (number - take.limit.toNat)) else none⟩

def add (take : Take) (c : Captured) : Take := { take with captures := take.captures ++ [c] }

theorem recorded_length (take : Take) : take.recorded.length = take.count := List.length_mapIdx

theorem recorded_add (take : Take) (c : Captured) :
    (take.add c).recorded =
      take.recorded ++ [c.frame (.ofNat (take.count + 1))] := by
  simp [recorded, add, count, List.mapIdx_append]

theorem count_add (take : Take) (c : Captured) : (take.add c).count = take.count + 1 := by
  simp [count, add]

theorem recorded_get? (take : Take) (place : Nat) :
    take.recorded[place]? =
      take.captures[place]?.map fun c => c.frame (.ofNat (place + 1)) :=
  List.getElem?_mapIdx

theorem kept_get? (take : Take) (place : Nat) :
    take.kept[place]? = take.recorded[take.dropped + place]? := List.getElem?_drop

end Take

-- The session is as the caller's view of it says.
structure Keeps (take : Take) (s : Session) : Prop where
  room : 0 < take.limit.toNat
  capacity : s.ring.capacity = take.limit
  frames : s.ring.frames = take.kept
  evicted : s.ring.evicted = .ofNat take.dropped
  next : s.nextFrame = .ofNat (take.count + 1)
  reports : ∀ {place c}, take.captures[place]? = some c → c.report = take.reportAt (place + 1)

namespace Keeps

theorem ofNat_succ (n : Nat) : UInt64.ofNat n + 1 = UInt64.ofNat (n + 1) := by
  rw [UInt64.ofNat_add]
  rfl

theorem new {id : SessionId} {options : RecordingOptions} {now : Instant}
    (room : options.maxSnapshots ≠ 0) :
    Keeps ⟨options.maxSnapshots, []⟩ (Session.new id options now) := by
  have positive : 0 < options.maxSnapshots.toNat := by
    refine Nat.pos_of_ne_zero ?_
    intro none
    exact room (UInt64.toNat_inj.mp none)
  refine ⟨positive, ?_, ?_, ?_, rfl, ?_⟩
  · show (if options.maxSnapshots ≤ 1 then 1 else options.maxSnapshots) = options.maxSnapshots
    split_ifs with one
    · exact UInt64.toNat_inj.mp (Nat.le_antisymm positive one)
    · rfl
  · simp [Session.new, Ring.withCapacity, Take.kept, Take.recorded]
  · simp [Session.new, Ring.withCapacity, Take.dropped, Take.count]
  · intro place c found
    cases found

-- A new frame displaces the oldest one exactly when the limit was reached before it.
theorem push {take : Take} {s : Session} (keeps : Keeps take s) (c : Captured) :
    s.ring.push (c.frame s.nextFrame) =
      ({ s.ring with
          frames := (take.add c).kept
          evicted := .ofNat (take.add c).dropped },
        if take.limit.toNat < take.count + 1 then take.recorded[take.dropped]? else none) := by
  have room := keeps.room
  have inside : take.dropped < (take.add c).recorded.length := by
    rw [Take.recorded_length, Take.count_add, Take.dropped]
    omega
  have appended : s.ring.frames ++ [c.frame s.nextFrame] =
      (take.add c).recorded[take.dropped] :: (take.add c).recorded.drop (take.dropped + 1) := by
    rw [← List.drop_eq_getElem_cons, keeps.frames, keeps.next, Take.recorded_add,
      List.drop_append_of_le_length, Take.kept]
    rw [Take.recorded_length, Take.dropped]
    omega
  have size : ((take.add c).recorded.drop (take.dropped + 1)).length + 1 =
      take.count + 1 - take.dropped := by
    rw [List.length_drop, Take.recorded_length, Take.count_add]
    rw [Take.recorded_length, Take.count_add] at inside
    omega
  unfold Ring.push
  rw [appended]
  simp only [size, keeps.capacity]
  by_cases full : take.limit.toNat < take.count + 1
  · have more : take.dropped + 1 = (take.add c).dropped := by
      rw [Take.dropped, Take.dropped, Take.count_add]
      show take.count - take.limit.toNat + 1 = take.count + 1 - take.limit.toNat
      omega
    have oldest : take.recorded[take.dropped]? = some (take.add c).recorded[take.dropped] := by
      rw [← List.getElem?_eq_getElem, Take.recorded_add, List.getElem?_append_left]
      rw [Take.recorded_length, Take.dropped]
      omega
    rw [if_pos (by rw [Take.dropped]; omega), if_pos full, oldest, keeps.evicted, ofNat_succ, more,
      Take.kept]
  · have none : take.dropped = 0 := by
      rw [Take.dropped]
      omega
    have none' : (take.add c).dropped = 0 := by
      rw [Take.dropped, Take.count_add]
      show take.count + 1 - take.limit.toNat = 0
      omega
    have evicted := keeps.evicted
    rw [none] at evicted
    rw [if_neg (by omega), if_neg full, ← List.drop_eq_getElem_cons, Take.kept, none, none', evicted]

theorem append {take : Take} {s : Session} (keeps : Keeps take s) (content : Capture)
    (now : Instant) :
    Keeps (take.add ⟨now, content, (s.append content now).2⟩) (s.append content now).1 := by
  have room := keeps.room
  let made : Captured := ⟨now, content, (s.append content now).2⟩
  have pushed := keeps.push made
  have ring : (s.append content now).1.ring = (s.ring.push (made.frame s.nextFrame)).1 := rfl
  have reported : (s.append content now).2 = take.reportAt (take.count + 1) := by
    have displaced : (s.append content now).2 =
        ⟨s.nextFrame, (s.ring.push (made.frame s.nextFrame)).2.map (·.number)⟩ := rfl
    rw [displaced, pushed, keeps.next, Take.reportAt]
    congr 1
    split
    · have inside : take.dropped < take.captures.length := by
        show take.count - take.limit.toNat < take.count
        omega
      have number : take.dropped + 1 = take.count + 1 - take.limit.toNat := by
        rw [Take.dropped]
        omega
      rw [Take.recorded_get?, List.getElem?_eq_getElem inside, ← number]
      rfl
    · rfl
  refine ⟨room, ?_, ?_, ?_, ?_, ?_⟩
  · rw [ring, pushed]
    exact keeps.capacity
  · rw [ring, pushed]
  · rw [ring, pushed]
  · show s.nextFrame + 1 = _
    rw [keeps.next, ofNat_succ, Take.count_add]
  · intro place c found
    rcases Nat.lt_or_ge place take.captures.length with before | after
    · exact keeps.reports ((List.getElem?_append_left before).symm.trans found)
    · have last := (List.getElem?_append_right after).symm.trans found
      have same : place = take.captures.length := by
        have inside := (List.getElem?_eq_some_iff.mp last).1
        simp only [List.length_singleton] at inside
        omega
      subst same
      rw [Nat.sub_self] at last
      cases last
      exact reported

-- Only the frames and the counters of a session matter, not its bookmarks or whether it goes on.
theorem of_eq {take : Take} {s s' : Session} (keeps : Keeps take s) (ring : s'.ring = s.ring)
    (next : s'.nextFrame = s.nextFrame) : Keeps take s' :=
  ⟨keeps.room, ring ▸ keeps.capacity, ring ▸ keeps.frames, ring ▸ keeps.evicted, next ▸ keeps.next,
    keeps.reports⟩

theorem numbers {take : Take} {s : Session} (keeps : Keeps take s) :
    s.ring.numbers =
      (List.range' (take.dropped + 1) (take.count - take.dropped)).map UInt64.ofNat := by
  rw [Ring.numbers, keeps.frames]
  refine List.ext_getElem? ?_
  intro place
  rw [List.getElem?_map, List.getElem?_map, Take.kept_get?, Take.recorded_get?]
  rcases Nat.lt_or_ge (take.dropped + place) take.captures.length with inside | outside
  · rw [List.getElem?_eq_getElem inside, List.getElem?_range' (by rw [Take.count]; omega)]
    have number : take.dropped + 1 + 1 * place = take.dropped + place + 1 := by omega
    rw [number]
    rfl
  · have beyond : (List.range' (take.dropped + 1) (take.count - take.dropped)).length ≤ place := by
      rw [List.length_range', Take.count]
      omega
    rw [List.getElem?_eq_none outside, List.getElem?_eq_none beyond]
    rfl

theorem increasing {take : Take} {s : Session} (keeps : Keeps take s) (few : take.count < 2 ^ 64) :
    Ring.Increasing s.ring.numbers := by
  rw [keeps.numbers]
  refine List.pairwise_map.mpr (List.Pairwise.imp_of_mem ?_ List.pairwise_lt_range')
  intro first second _ member before
  have last := (List.mem_range'_1.mp member).2
  have fewer : take.dropped ≤ take.count := Nat.sub_le _ _
  rw [UInt64.lt_iff_toNat_lt, UInt64.toNat_ofNat', UInt64.toNat_ofNat']
  omega

theorem findFrame_kept {take : Take} {s : Session} (keeps : Keeps take s)
    (few : take.count < 2 ^ 64) {place : Nat} {c : Captured}
    (found : take.captures[place]? = some c) (retained : take.dropped ≤ place) :
    s.findFrame (.ofNat (place + 1)) = .ok (c.frame (.ofNat (place + 1))) := by
  have frame : s.ring.frames[place - take.dropped]? =
      some (c.frame (.ofNat (place + 1))) := by
    rw [keeps.frames, Take.kept_get?, Take.recorded_get?, Nat.add_sub_cancel' retained, found]
    rfl
  have number : s.ring.numbers[place - take.dropped]? = some (.ofNat (place + 1)) := by
    rw [Ring.numbers, List.getElem?_map, frame]
    rfl
  have index : s.indexOf? (.ofNat (place + 1)) = some (place - take.dropped) :=
    (Ring.position?_eq_some (keeps.increasing few)).mpr number
  have shown : s.frame? (place - take.dropped) = _ := frame
  simp only [Session.findFrame, index, Option.bind_some, shown]

theorem findFrame_dropped {take : Take} {s : Session} (keeps : Keeps take s)
    (few : take.count < 2 ^ 64) {number : UInt64}
    (absent : ¬ (take.dropped < number.toNat ∧ number.toNat ≤ take.count)) :
    s.findFrame number = .error (.frameNotFound number) := by
  have none : s.indexOf? number = none := by
    refine Option.eq_none_iff_forall_ne_some.mpr ?_
    intro place index
    have there := (Ring.position?_eq_some (keeps.increasing few)).mp index
    rw [keeps.numbers, List.getElem?_map] at there
    obtain ⟨value, listed, rfl⟩ := Option.map_eq_some_iff.mp there
    have range := List.mem_range'_1.mp (List.mem_of_getElem? listed)
    rw [UInt64.toNat_ofNat'] at absent
    omega
  simp only [Session.findFrame, none, Option.bind_none]

theorem saturated_toInt (value : Nat) :
    (saturated value).toInt = min (value : Int) (2 ^ 63 - 1) := by
  have least : Int64.minValue.toInt = -2 ^ 63 := by decide
  have most : Int64.maxValue.toInt = 2 ^ 63 - 1 := by decide
  rw [saturated, Int64.toInt_ofInt_of_le] <;> rw [least, most] <;> omega

-- No more frames than positions that a signed word can hold ever fit into memory.
theorem seek_saturated (s : Session) (short : s.size ≤ 2 ^ 63) (position : Nat) :
    s.seek (saturated position) = min position (s.size - 1) := by
  unfold Session.seek Session.lastIndex?
  by_cases none : s.isEmpty
  · have size : s.size = 0 := List.length_eq_zero_iff.mpr (List.isEmpty_iff.mp none)
    simp [none, size]
  · have size : 0 < s.size := by
      refine Nat.pos_of_ne_zero ?_
      intro zero
      exact none (List.isEmpty_iff.mpr (List.length_eq_zero_iff.mp zero))
    rw [if_neg none]
    simp only [Int64.le_iff_toInt_le, saturated_toInt, Int64.toInt_zero]
    split_ifs <;> omega

theorem frameAt_eq {take : Take} {s : Session} (keeps : Keeps take s)
    (short : take.kept.length ≤ 2 ^ 63) (position : Nat) :
    s.frameAt position =
      match take.kept[min position (take.kept.length - 1)]? with
      | some frame => .ok frame
      | none => .error .emptySession := by
  have size : s.size = take.kept.length := congrArg List.length keeps.frames
  rw [Session.frameAt, seek_saturated s (size ▸ short), size, ← keeps.frames]
  rfl

end Keeps

end Chronomata
