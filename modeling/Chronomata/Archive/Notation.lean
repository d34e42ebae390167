import Chronomata.Archive.Basic
import Chronomata.Snapshot.Notation

-- Archives in object notation.
namespace Chronomata

open Source

namespace SessionId

def toJson (id : SessionId) : Json := .text id.text

def ofJson? (node : Json) : Option SessionId := (text? node).bind read?

end SessionId

namespace Bookmark

def toJson (b : Bookmark) : Json :=
  .record [("frameNumber", countJson b.frame), ("name", .text b.name),
    ("timestamp", Timestamp.toJson b.timestamp)]

def ofJson? (node : Json) : Option Bookmark := do
  let fields ← allFields? ["frameNumber", "name", "timestamp"] node
  some {
    frame := ← fields.get? "frameNumber" word64?
    name := ← fields.get? "name" text?
    timestamp := ← fields.get? "timestamp" Timestamp.ofJson? }

end Bookmark

namespace Ring

def toJson (r : Ring) : Json :=
  .record [("capacity", countJson r.capacity), ("frames", .list (r.frames.map Frame.toJson)),
    ("evicted", countJson r.evicted)]

def ofJson? (node : Json) : Option Ring := do
  let fields ← allFields? ["capacity", "frames", "evicted"] node
  some {
    capacity := ← fields.get? "capacity" word64?
    frames := ← fields.get? "frames" (list? Frame.ofJson?)
    evicted := ← fields.get? "evicted" word64? }

end Ring

namespace Session

def toJson (s : Session) : Json :=
  .record [("id", s.id.toJson), ("startedAt", Timestamp.toJson s.startedAt),
    ("endedAt", .optional Timestamp.toJson s.endedAt), ("captureInterval", s.interval.toJson),
    ("isRecording", .bool s.isRecording), ("snapshots", s.ring.toJson),
    ("bookmarks", .list (s.bookmarks.map Bookmark.toJson)), ("nextFrame", countJson s.nextFrame)]

def ofJson? (node : Json) : Option Session := do
  let fields ← allFields? ["id", "startedAt", "endedAt", "captureInterval", "isRecording",
    "snapshots", "bookmarks", "nextFrame"] node
  some {
    id := ← fields.get? "id" SessionId.ofJson?
    startedAt := ← fields.get? "startedAt" Timestamp.ofJson?
    endedAt := ← fields.optional? "endedAt" Timestamp.ofJson?
    interval := ← fields.get? "captureInterval" Span.read?
    isRecording := ← fields.get? "isRecording" bool?
    ring := ← fields.get? "snapshots" Ring.ofJson?
    bookmarks := ← fields.get? "bookmarks" (list? Bookmark.ofJson?)
    nextFrame := ← fields.get? "nextFrame" word64? }

end Session

namespace Archive

def toJson (a : Archive) : Json :=
  .record [("version", .natural a.version.toNat), ("exportedAt", Timestamp.toJson a.exportedAt),
    ("session", a.session.toJson)]

def ofJson? (node : Json) : Option Archive := do
  let fields ← allFields? ["version", "exportedAt", "session"] node
  some {
    version := ← fields.get? "version" fun node =>
      (bounded? 0 (UInt32.size - 1) node).map fun version => UInt32.ofNat version.toNat
    exportedAt := ← fields.get? "exportedAt" Timestamp.ofJson?
    session := ← fields.get? "session" Session.ofJson? }

def toJsonText (a : Archive) : String := a.toJson.pretty

def ofJsonText (text : String) : Except ArchiveError Archive :=
  verified ((Json.parse text).bind ofJson?)

end Archive

end Chronomata
