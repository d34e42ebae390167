import Chronomata.Config
import Chronomata.Decimal.Basic

-- The options of the command line. Words are read from left to right; a call for help or for the version ends
-- the reading, and so does a word that cannot be understood.
namespace Chronomata.CommandLine

structure Options where
  validate : Option String
  run : Option String
  ticks : Option UInt64
  mode : Option Mode
  config : Option String
  record : Option String
  verbose : Bool
  debug : Bool
  deriving DecidableEq, Repr

def Options.none : Options := ⟨.none, .none, .none, .none, .none, .none, false, false⟩

def Options.tickCount (o : Options) : Nat := (o.ticks.getD 10).toNat

inductive Interruption where
  | help
  | version
  | misuse
  deriving DecidableEq, Repr

def readTicks? (word : String) : Option UInt64 :=
  let digits := match word.toList with
    | '+' :: digits => digits
    | digits => digits
  if digits.isEmpty ∨ ¬ digits.all Char.isDigit then none
  else
    let value := Decimal.digitsValue digits
    if value < UInt64.size then some (.ofNat value) else none

def readPath? (word : String) : Option String := if word = "" then none else some word

def setOnce {α : Type} (before : Option α) (value : Option α) : Except Interruption (Option α) :=
  match before, value with
  | none, some value => .ok (some value)
  | _, _ => .error .misuse

-- Give a value to the option of a name. Every option is given once at most.
def Options.assign (o : Options) (name value : String) : Except Interruption Options :=
  match name with
  | "validate" => do return { o with validate := ← setOnce o.validate (readPath? value) }
  | "run" => do return { o with run := ← setOnce o.run (readPath? value) }
  | "ticks" => do return { o with ticks := ← setOnce o.ticks (readTicks? value) }
  | "mode" => do return { o with mode := ← setOnce o.mode (Mode.ofName? value) }
  | "config" => do return { o with config := ← setOnce o.config (readPath? value) }
  | "record" => do return { o with record := ← setOnce o.record (readPath? value) }
  | _ => .error .misuse

def Options.raiseFlag (o : Options) (name : String) : Except Interruption Options :=
  match name with
  | "verbose" => if o.verbose then .error .misuse else .ok { o with verbose := true }
  | "debug" => if o.debug then .error .misuse else .ok { o with debug := true }
  | "help" => .error .help
  | "version" => .error .version
  | _ => .error .misuse

def valued : List String := ["validate", "run", "ticks", "mode", "config", "record"]

def readLetters : List Char → Interruption
  | 'h' :: _ => .help
  | 'V' :: _ => .version
  | _ => .misuse

def isValue (word : String) : Bool := !word.toList.head? == some '-' || word = "-"

def readWords : Options → List String → Except Interruption Options
  | o, [] => .ok o
  | o, word :: rest =>
    match word.toList with
    | ['-', '-'] => if rest.isEmpty then .ok o else .error .misuse
    | '-' :: '-' :: long =>
      let name := String.ofList (long.takeWhile (· ≠ '='))
      match long.dropWhile (· ≠ '='), rest with
      | _ :: value, rest =>
        (o.assign name (String.ofList value)).bind fun o => readWords o rest
      | [], value :: further =>
        if valued.contains name then
          if isValue value then (o.assign name value).bind fun o => readWords o further
          else .error .misuse
        else (o.raiseFlag name).bind fun o => readWords o (value :: further)
      | [], [] => o.raiseFlag name
    | '-' :: letter :: letters => .error (readLetters (letter :: letters))
    | _ => .error .misuse

-- What the options ask for together: not to check and to run, and an archive only of a run.
def Options.check (o : Options) : Except Interruption Options :=
  if o.run.isSome ∧ o.validate.isSome then .error .misuse
  else if o.record.isSome ∧ o.run.isNone ∧ o.validate.isNone then .error .misuse
  else .ok o

def readOptions (words : List String) : Except Interruption Options :=
  (readWords .none words).bind Options.check

end Chronomata.CommandLine
