import Chronomata.Recording.Ring
import Chronomata.Recording.SessionId
import Chronomata.Time.Span

-- Recording sessions: the captured frames of one recording, and the names given to some of them.
-- Frames are numbered from one on, and keep their numbers when older ones are dropped.
namespace Chronomata

structure RecordingOptions where
  interval : Span
  maxSnapshots : UInt64
  deriving DecidableEq, Repr

def RecordingOptions.default : RecordingOptions := ⟨.ofMilliseconds 100, 1000⟩

structure Bookmark where
  frame : UInt64
  name : String
  timestamp : Instant
  deriving DecidableEq

structure Session where
  id : SessionId
  startedAt : Instant
  endedAt : Option Instant
  interval : Span
  isRecording : Bool
  ring : Ring
  bookmarks : List Bookmark
  nextFrame : UInt64
  deriving DecidableEq

structure CaptureReport where
  frame : UInt64
  evicted : Option UInt64
  deriving DecidableEq, Repr

namespace Session

def new (id : SessionId) (options : RecordingOptions) (now : Instant) : Session where
  id := id
  startedAt := now
  endedAt := none
  interval := options.interval
  isRecording := true
  ring := .withCapacity options.maxSnapshots
  bookmarks := []
  nextFrame := 1

def maxSnapshots (s : Session) : UInt64 := s.ring.capacity

def size (s : Session) : Nat := s.ring.size

def isEmpty (s : Session) : Bool := s.ring.isEmpty

def frames (s : Session) : List Frame := s.ring.frames

def frame? (s : Session) (index : Nat) : Option Frame := s.ring.get? index

def lastIndex? (s : Session) : Option Nat := if s.isEmpty then none else some (s.size - 1)

def indexOf? (s : Session) (number : UInt64) : Option Nat := s.ring.position? number

def bookmark? (s : Session) (name : String) : Option Bookmark :=
  s.bookmarks.reverse.find? (·.name == name)

def append (s : Session) (capture : Capture) (now : Instant) : Session × CaptureReport :=
  let (ring, displaced) := s.ring.push (.ofCapture s.nextFrame now capture)
  ({ s with ring, nextFrame := s.nextFrame + 1 }, ⟨s.nextFrame, displaced.map (·.number)⟩)

-- End the recording; the frames stay.
def finish (s : Session) (now : Instant) : Session :=
  { s with isRecording := false, endedAt := some now }

def addBookmark (s : Session) (bookmark : Bookmark) : Session :=
  { s with bookmarks := s.bookmarks ++ [bookmark] }

end Session

end Chronomata
