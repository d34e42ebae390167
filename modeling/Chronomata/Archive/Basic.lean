import Chronomata.Recording.Session

-- Recording sessions on their own, for keeping outside the program, and what is checked of one that is read.
namespace Chronomata

structure Archive where
  version : UInt32
  exportedAt : Instant
  session : Session
  deriving DecidableEq

inductive Inconsistency where
  | unorderedFrames
  | tooManyFrames (frames : Nat) (maxSnapshots : UInt64)
  deriving DecidableEq, Repr

inductive ArchiveError where
  | malformed
  | unsupportedVersion (found : UInt32)
  | inconsistent (what : Inconsistency)
  | unreachableFile
  deriving DecidableEq, Repr

def Inconsistency.message : Inconsistency → String
  | unorderedFrames => "frame numbers are not strictly increasing"
  | tooManyFrames frames maxSnapshots =>
    s!"{frames} frames exceed max_snapshots {maxSnapshots.toNat}"

namespace Archive

def currentVersion : UInt32 := 1

end Archive

def ArchiveError.message : ArchiveError → String
  | malformed => "Deserialization failed"
  | unsupportedVersion found =>
    s!"Unsupported archive version {found.toNat}, supported: {Archive.currentVersion.toNat}"
  | inconsistent what => s!"Archive validation failed: {what.message}"
  | unreachableFile => "Archive I/O failed"

namespace Archive

def ofSession (session : Session) (now : Instant) : Archive := ⟨currentVersion, now, session⟩

def increases : List UInt64 → Bool
  | a :: b :: rest => a < b && increases (b :: rest)
  | _ => true

def verify (a : Archive) : Except ArchiveError Archive :=
  if a.version ≠ currentVersion then .error (.unsupportedVersion a.version)
  else if ¬ increases a.session.ring.numbers then .error (.inconsistent .unorderedFrames)
  else if a.session.maxSnapshots.toNat < a.session.size then
    .error (.inconsistent (.tooManyFrames a.session.size a.session.maxSnapshots))
  else .ok a

def verified (found : Option Archive) : Except ArchiveError Archive :=
  match found with
  | some a => a.verify
  | none => .error .malformed

end Archive

end Chronomata
