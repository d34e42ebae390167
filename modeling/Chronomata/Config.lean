import Chronomata.Folder
import Chronomata.Recording.Session
import Chronomata.Text.Basic
import Chronomata.Bytes
import Chronomata.Toml.Document

-- How an engine is configured. Every key of a configuration is optional; unknown keys are refused.
namespace Chronomata

inductive Mode where
  | detached
  | network
  deriving DecidableEq, Repr

def Mode.name : Mode → String
  | .detached => "detached"
  | .network => "network"

def Mode.ofName? (name : String) : Option Mode := [.detached, .network].find? (·.name == name)

structure Config where
  mode : Mode
  tickPeriod : UInt64
  capturePeriod : UInt64
  maxSnapshots : UInt64
  device : String
  deriving DecidableEq, Repr

inductive ConfigIssue where
  | idleTicks
  | idleCaptures
  | noSnapshots
  | unnamedDevice
  deriving DecidableEq, Repr

def ConfigIssue.message : ConfigIssue → String
  | .idleTicks => "tick_interval_ms must be positive"
  | .idleCaptures => "capture_interval_ms must be positive"
  | .noSnapshots => "max_snapshots must be positive"
  | .unnamedDevice => "device_id must not be empty"

inductive ConfigError where
  | missingFile (path : String)
  | unreadableFile (path : String)
  | malformed
  | invalid (issue : ConfigIssue)
  deriving DecidableEq, Repr

def ConfigError.message : ConfigError → String
  | .missingFile path => s!"config file not found: {path}"
  | .unreadableFile path => s!"failed to read config {path}"
  | .malformed => "invalid config"
  | .invalid issue => s!"invalid config: {issue.message}"

namespace Config

def default : Config := ⟨.detached, 100, 100, 1000, "local"⟩

-- A mode is a text, or a table with an empty table or an empty list under that name.
def readMode : Toml.Item → Option Mode
  | .text name => Mode.ofName? name
  | .table _ [(name, .table _ [])] | .table _ [(name, .emptyList)] => Mode.ofName? name
  | _ => none

def readCount : Toml.Item → Option UInt64
  | .integer value => if 0 ≤ value then some (.ofNat value.toNat) else none
  | _ => none

def readName : Toml.Item → Option String
  | .text name => some name
  | _ => none

def adopt (c : Config) : String × Toml.Item → Option Config
  | ("mode", item) => (readMode item).map fun mode => { c with mode }
  | ("tick_interval_ms", item) => (readCount item).map fun tickPeriod => { c with tickPeriod }
  | ("capture_interval_ms", item) =>
    (readCount item).map fun capturePeriod => { c with capturePeriod }
  | ("max_snapshots", item) => (readCount item).map fun maxSnapshots => { c with maxSnapshots }
  | ("device_id", item) => (readName item).map fun device => { c with device }
  | _ => none

def ofEntries? (entries : Toml.Entries) : Option Config := entries.foldlM adopt default

def issue? (c : Config) : Option ConfigIssue :=
  if c.tickPeriod = 0 then some .idleTicks
  else if c.capturePeriod = 0 then some .idleCaptures
  else if c.maxSnapshots = 0 then some .noSnapshots
  else if Text.trim c.device = "" then some .unnamedDevice
  else none

def ofText (text : String) : Except ConfigError Config :=
  match (Toml.parse text).bind ofEntries? with
  | none => .error .malformed
  | some c => match c.issue? with
    | some issue => .error (.invalid issue)
    | none => .ok c

def ofFile (path : String) (found : Place) : Except ConfigError Config :=
  match found with
  | .nothing => .error (.missingFile path)
  | .unreadable _ => .error (.unreadableFile path)
  | .file bytes => match Text.ofUtf8? bytes with
    | none => .error (.unreadableFile path)
    | some text => ofText text

def tickInterval (c : Config) : Span := .ofMilliseconds c.tickPeriod

def recordingOptions (c : Config) : RecordingOptions :=
  ⟨.ofMilliseconds c.capturePeriod, c.maxSnapshots⟩

def toJson (c : Config) : Json :=
  .record [("mode", .text c.mode.name), ("tick_interval_ms", .natural c.tickPeriod.toNat),
    ("capture_interval_ms", .natural c.capturePeriod.toNat),
    ("max_snapshots", .natural c.maxSnapshots.toNat), ("device_id", .text c.device)]

theorem issue?_default : default.issue? = none := by decide +kernel

end Config

end Chronomata
