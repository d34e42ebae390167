import Chronomata.Decimal.Notation
import Chronomata.Recording.Session

-- Positions in a recording, and playheads that can be moved or move on by themselves. A position is an index
-- among the frames that are kept; moving clamps to the frames there are.
namespace Chronomata

inductive ReplayError where
  | emptySession
  | frameNotFound (number : UInt64)
  | unknownBookmark (name : String)
  | bookmarkEvicted (name : String) (number : UInt64)
  | invalidSpeed (speed : Float)
  deriving DecidableEq

namespace ReplayError

def message : ReplayError → String
  | emptySession => "session has no recorded frames"
  | frameNotFound number => s!"frame {number.toNat} is not in the buffer"
  | unknownBookmark name => s!"no bookmark named '{name}'"
  | bookmarkEvicted name number => s!"bookmark '{name}' points at evicted frame {number.toNat}"
  | invalidSpeed speed =>
    let written := Decimal.text .message speed
    s!"playback speed {written} does not give a usable pacing"

end ReplayError

def saturated (value : Int) : Int64 := .ofInt (max Int64.minValue.toInt (min value Int64.maxValue.toInt))

namespace Session

def seek (s : Session) (target : Int64) : Nat :=
  match s.lastIndex? with
  | none => 0
  | some last => if target ≤ 0 then 0 else min target.toInt.toNat last

-- The index some steps away from a position. Positions and targets beyond the signed words are
-- taken for the last of those.
def step (s : Session) (position : Nat) (delta : Int64) : Nat :=
  s.seek (saturated ((saturated position).toInt + delta.toInt))

def frameAt (s : Session) (position : Nat) : Except ReplayError Frame :=
  match s.frame? (s.seek (saturated position)) with
  | some frame => .ok frame
  | none => .error .emptySession

def findFrame (s : Session) (number : UInt64) : Except ReplayError Frame :=
  match (s.indexOf? number).bind s.frame? with
  | some frame => .ok frame
  | none => .error (.frameNotFound number)

end Session

inductive Playback where
  | paused
  | playing (speed : Float)
  deriving DecidableEq

structure Playhead where
  cursor : Nat
  playback : Playback
  deriving DecidableEq

namespace Playhead

def start : Playhead := ⟨0, .paused⟩

def position (p : Playhead) (s : Session) : Nat := s.seek (saturated p.cursor)

def isPlaying (p : Playhead) : Bool :=
  match p.playback with
  | .playing _ => true
  | .paused => false

def current (p : Playhead) (s : Session) : Except ReplayError Frame := s.frameAt (p.position s)

def moveTo (p : Playhead) (s : Session) (index : Nat) : Except ReplayError Frame × Playhead :=
  let moved := { p with cursor := index }
  (moved.current s, moved)

def seek (p : Playhead) (s : Session) (target : Int64) : Except ReplayError Frame × Playhead :=
  p.moveTo s (s.seek target)

def step (p : Playhead) (s : Session) (delta : Int64) : Except ReplayError Frame × Playhead :=
  p.moveTo s (s.step (p.position s) delta)

def jump (p : Playhead) (s : Session) (name : String) : Except ReplayError Frame × Playhead :=
  match s.bookmark? name with
  | none => (.error (.unknownBookmark name), p)
  | some bookmark => match s.indexOf? bookmark.frame with
    | none => (.error (.bookmarkEvicted name bookmark.frame), p)
    | some index => p.moveTo s index

def bookmark (p : Playhead) (s : Session) (name : String) (now : Instant) :
    Except ReplayError (Bookmark × Session) :=
  (p.current s).map fun frame =>
    let bookmark := ⟨frame.number, name, now⟩
    (bookmark, s.addBookmark bookmark)

def pacing (interval : Span) (speed : Float) : Except ReplayError Span :=
  match Span.ofSeconds? (interval.toSeconds / speed) with
  | some pacing => if pacing.isZero then .error (.invalidSpeed speed) else .ok pacing
  | none => .error (.invalidSpeed speed)

-- Let the playhead move on by itself. The answer is the time between two moves.
def play (p : Playhead) (s : Session) (speed : Float) : Except ReplayError Span × Playhead :=
  if ¬ speed.isFinite ∨ speed ≤ 0 then (.error (.invalidSpeed speed), p)
  else if s.isEmpty then (.error .emptySession, p)
  else match pacing s.interval speed with
    | .error e => (.error e, p)
    | .ok pacing => (.ok pacing, { p with playback := .playing speed })

def pause (p : Playhead) : Playhead := { p with playback := .paused }

-- Move on by one frame while playing. On the last frame the playhead comes to rest.
def advance (p : Playhead) (s : Session) : Except ReplayError (Option Frame) × Playhead :=
  if ¬ p.isPlaying then (.ok none, p)
  else match s.lastIndex? with
    | none => (.error .emptySession, p.pause)
    | some last =>
      if last ≤ p.position s then (.ok none, p.pause)
      else
        let (frame, moved) := p.step s 1
        (frame.map some, if last ≤ moved.cursor then moved.pause else moved)

end Playhead

end Chronomata
