import Chronomata.CommandLine.Outcome
import Std.Time.DateTime.Timestamp

-- The program: reads the files that its command line names, does what it asks for, and prints and
-- writes what comes of it.
namespace Chronomata.CommandLine

def helpText : String :=
  "Run and validate networked automata

Usage: aetherium [OPTIONS]

Options:
      --validate <FILE>  Validate an automata definition (JSON, or YAML by .yaml/.yml extension) and exit
      --run <FILE>       Run an automata definition (JSON or YAML)
      --ticks <TICKS>    Number of cycles to run [default: 10]
      --mode <MODE>      Engine mode, defaults to the config file's or detached [possible values: detached, network]
      --config <FILE>    Engine configuration (TOML)
      --record <PATH>    Write a session archive of the run (.json for JSON, otherwise binary)
      --verbose          Enable verbose logging
      --debug            Enable debug logging
  -h, --help             Print help
  -V, --version          Print version"

def systemNumber (code : UInt32) : UInt32 := if code < 0x80000000 then code else -code

-- What an attempt to read says of the place when it fails. Number 20 is of a step into what is no
-- folder.
def placeOfError : IO.Error → Place
  | .noFileOrDirectory .. => .nothing
  | .inappropriateType _ code reason | .permissionDenied _ code reason =>
    let number := systemNumber code
    if number = 20 then .nothing else .unreadable s!"{reason} (os error {number})"
  | e => .unreadable (toString e)

def readPlace (path : String) : IO Place := do
  try return .file (← IO.FS.readBinFile path).toList catch e => return placeOfError e

def readFiles (words : List String) : IO Files := do
  let paths := match readOptions words with
    | .ok o => o.config.toList ++ o.validate.toList ++ o.run.toList
    | .error _ => []
  let places ← paths.mapM fun path => do return (path, ← readPlace path)
  return fun path => (places.lookup path).getD .nothing

def currentTime : IO Instant := do
  let nanoseconds := (← Std.Time.Timestamp.now).toNanosecondsSinceUnixEpoch.val
  return (Instant.ofNanoseconds? nanoseconds).getD .epoch

def freshId : IO SessionId := do
  let bytes ← IO.getRandomBytes 16
  return .ofRandom (.ofNat 128 (bytes.toList.foldl (fun value b => 256 * value + b.toNat) 0))

def writeArchive (outcome : Outcome) : IO Outcome := do
  match outcome.archive with
  | none => return outcome
  | some (path, bytes) =>
    try
      IO.FS.writeBinFile path ⟨bytes.toArray⟩
      return outcome
    catch _ => return outcome.unwritten path

def printOutput : Output → IO Unit
  | .nothing => return
  | .help => IO.println helpText
  | .line text => IO.println text
  | .snapshot latest => IO.println latest.toJson.pretty

end Chronomata.CommandLine

open Chronomata.CommandLine in
def main (words : List String) : IO UInt32 := do
  let outcome := execute (← readFiles words) words (← freshId) (← currentTime)
  printOutput outcome.output
  let outcome ← writeArchive outcome
  for complaint in outcome.complaint do
    IO.eprintln complaint
  return outcome.code
