import Chronomata.Archive.Codec
import Chronomata.Archive.Notation
import Chronomata.Folder

-- Archives as bytes, and archives in files: a file is in object notation when its extension is exactly `json`,
-- and binary otherwise.
namespace Chronomata

open Codec

def Value.codec : Codec Value where
  encode
    | .bool b => (number 4).encode 0 ++ Codec.bool.encode b
    | .int i => (number 4).encode 1 ++ int64.encode i
    | .str s => (number 4).encode 2 ++ text.encode s
    | .void => (number 4).encode 3
  decode bytes := do
    let (alternative, rest) ← (number 4).decode bytes
    match alternative with
    | 0 => (Codec.bool.decode rest).map fun (b, rest) => (.bool b, rest)
    | 1 => (int64.decode rest).map fun (i, rest) => (.int i, rest)
    | 2 => (text.decode rest).map fun (s, rest) => (.str s, rest)
    | 3 => some (.void, rest)
    | _ => none

-- Values by name as a list of entries; the last of several under one name counts.
def Values.codec : Codec Values :=
  (list (text.pair Value.codec)).refine SortedMap.entries fun entries => some (.ofEntries entries)

def Timestamp.codec : Codec Instant := text.refine write read?

def Span.codec : Codec Span :=
  (word64.pair (number 4)).refine (fun s => (s.seconds, s.nanoseconds))
    fun (seconds, nanoseconds) => of? seconds.toNat nanoseconds

def SessionId.bytes (id : SessionId) : List UInt8 :=
  (Random.littleEndian 16 id.bits.toNat).reverse

def SessionId.ofBytes? (bytes : List UInt8) : Option SessionId :=
  if bytes.length = 16 then some ⟨.ofNat 128 (Random.ofLittleEndian bytes.reverse)⟩ else none

def SessionId.codec : Codec SessionId := blob.refine bytes ofBytes?

def InstanceKey.codec : Codec InstanceKey :=
  (text.pair text).refine (fun k => (k.device, k.automaton)) fun (d, a) => some ⟨d, a⟩

def ExecutionSnapshot.codec : Codec ExecutionSnapshot :=
  (InstanceKey.codec.pair <| Timestamp.codec.pair <| word64.pair <| text.pair <|
      (optional text).pair <| (optional text).pair <| Values.codec.pair <| Values.codec.pair <|
      Values.codec.pair <| member 4 RunState.all).refine
    (fun s => (s.key, s.timestamp, s.cycle, s.currentState, s.previousState, s.lastTransition,
      s.locals, s.inputs, s.outputs, s.runState))
    fun (key, timestamp, cycle, current, previous, last, locals, inputs, outputs, runState) =>
      some ⟨key, timestamp, cycle, current, previous, last, locals, inputs, outputs, runState⟩

def DeviceSummary.codec : Codec DeviceSummary :=
  (text.pair <| (member 4 Connection.all).pair <| (member 4 Health.all).pair <| word64.pair <|
      word64.pair <| word64.pair word64).refine
    (fun d => (d.device, d.connection, d.health, d.instances, d.running, d.faulted, d.totalCycles))
    fun (device, connection, health, instances, running, faulted, cycles) =>
      some ⟨device, connection, health, instances, running, faulted, cycles⟩

def Communication.codec : Codec Communication :=
  (Timestamp.codec.pair <| InstanceKey.codec.pair <| InstanceKey.codec.pair <| text.pair
      Value.codec).refine
    (fun c => (c.timestamp, c.sender, c.receiver, c.channel, c.value))
    fun (timestamp, sender, receiver, channel, value) =>
      some ⟨timestamp, sender, receiver, channel, value⟩

def Event.codec : Codec Event :=
  (Timestamp.codec.pair <| (member 4 Severity.all).pair <| (member 4 EventKind.all).pair <|
      text.pair <| (optional InstanceKey.codec).pair text).refine
    (fun e => (e.timestamp, e.severity, e.kind, e.device, e.key, e.message))
    fun (timestamp, severity, kind, device, key, message) =>
      some ⟨timestamp, severity, kind, device, key, message⟩

def Frame.codec : Codec Frame :=
  (word64.pair <| Timestamp.codec.pair <| (list ExecutionSnapshot.codec).pair <|
      (list DeviceSummary.codec).pair <| (list Communication.codec).pair <|
      list Event.codec).refine
    (fun f => (f.number, f.timestamp, f.executions, f.devices, f.communications, f.events))
    fun (number, timestamp, executions, devices, communications, events) =>
      some ⟨number, timestamp, executions, devices, communications, events⟩

def Ring.codec : Codec Ring :=
  (word64.pair <| (list Frame.codec).pair word64).refine
    (fun r => (r.capacity, r.frames, r.evicted))
    fun (capacity, frames, evicted) => some ⟨capacity, frames, evicted⟩

def Bookmark.codec : Codec Bookmark :=
  (word64.pair <| text.pair Timestamp.codec).refine (fun b => (b.frame, b.name, b.timestamp))
    fun (frame, name, timestamp) => some ⟨frame, name, timestamp⟩

def Session.codec : Codec Session :=
  (SessionId.codec.pair <| Timestamp.codec.pair <| (optional Timestamp.codec).pair <|
      Span.codec.pair <| Codec.bool.pair <| Ring.codec.pair <| (list Bookmark.codec).pair
      word64).refine
    (fun s => (s.id, s.startedAt, s.endedAt, s.interval, s.isRecording, s.ring, s.bookmarks,
      s.nextFrame))
    fun (id, startedAt, endedAt, interval, isRecording, ring, bookmarks, nextFrame) =>
      some ⟨id, startedAt, endedAt, interval, isRecording, ring, bookmarks, nextFrame⟩

def Archive.codec : Codec Archive :=
  (word32.pair <| Timestamp.codec.pair Session.codec).refine
    (fun a => (a.version, a.exportedAt, a.session))
    fun (version, exportedAt, session) => some ⟨version, exportedAt, session⟩

namespace Archive

def toBytes (a : Archive) : List UInt8 := codec.encode a

-- The archive of bytes. What follows it is left alone.
def ofBytes (bytes : List UInt8) : Except ArchiveError Archive :=
  verified ((codec.decode bytes).map (·.1))

end Archive

end Chronomata

namespace Chronomata.Archive

def isJsonFile (path : String) : Bool := Text.extension? path == some "json"

def fileBytes (path : String) (a : Archive) : List UInt8 :=
  if isJsonFile path then Text.utf8 a.toJsonText else a.toBytes

def ofFile (path : String) (found : Place) : Except ArchiveError Archive :=
  match found with
  | .nothing | .unreadable _ => .error .unreachableFile
  | .file bytes =>
    if isJsonFile path then
      match Text.ofUtf8? bytes with
      | some text => ofJsonText text
      | none => .error .unreachableFile
    else ofBytes bytes

end Chronomata.Archive
