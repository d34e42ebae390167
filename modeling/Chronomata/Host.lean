import Chronomata.Text.Basic
import Chronomata.Value

-- Hosts: what runs the scripts of automata. A script is opaque to everything else; it sees a context
-- and answers with a truth value or with effects.
namespace Chronomata

structure Context where
  automaton : String
  state : String
  cycle : UInt64
  inputs : Values
  locals : Values
  deriving DecidableEq

structure Effects where
  outputs : Values
  locals : Values
  deriving DecidableEq

namespace Effects

def none : Effects := ⟨SortedMap.empty, SortedMap.empty⟩

def emit (e : Effects) (name : String) (value : Value) : Effects :=
  { e with outputs := e.outputs.insert name value }

def set (e : Effects) (name : String) (value : Value) : Effects :=
  { e with locals := e.locals.insert name value }

def isEmpty (e : Effects) : Bool := e.outputs.isEmpty && e.locals.isEmpty

end Effects

structure ScriptError where
  body : String
  reason : String
  deriving DecidableEq, Repr

def ScriptError.message (e : ScriptError) : String := s!"script '{e.body}' failed: {e.reason}"

-- What runs scripts. Its answers depend on the script and the context alone.
structure Host where
  evaluate : String → Context → Except ScriptError Bool
  execute : String → Context → Except ScriptError Effects

-- A host for automata whose guards are literals or names of values.

namespace Literal

def isNameStart (c : Char) : Bool := c.isAlpha || c = '_'

def isNamePart (c : Char) : Bool := c.isAlphanum || c = '_'

def isName (text : String) : Bool :=
  match text.toList with
  | [] => false
  | c :: rest => isNameStart c && rest.all isNamePart

def lookup (name : String) (context : Context) : Bool :=
  ((context.inputs.get? name).or (context.locals.get? name)).any (·.isTruthy)

-- A guard: a literal, a name, or a negated name. The empty guard holds.
def evaluate (condition : String) (context : Context) : Except ScriptError Bool :=
  let text := Text.trim condition
  if text = "" ∨ text = "true" then .ok true
  else if text = "false" then .ok false
  else match text.toList with
    | '!' :: rest =>
      let name := Text.trim (String.ofList rest)
      if isName name then .ok (!lookup name context) else unsupported
    | _ => if isName text then .ok (lookup text context) else unsupported
where
  unsupported : Except ScriptError Bool := .error ⟨condition, "unsupported expression"⟩

end Literal

def Host.literal : Host := ⟨Literal.evaluate, fun _ _ => .ok .none⟩

end Chronomata
