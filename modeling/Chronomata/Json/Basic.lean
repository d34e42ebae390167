import Chronomata.Decimal.Basic
import Chronomata.Decimal.Notation

-- Documents in object notation. Members keep their order and their repetitions, and numbers keep their digits,
-- so what a document means is left to whoever reads it.
namespace Chronomata

inductive Json where
  | null
  | bool (value : Bool)
  | number (written : String)
  | text (value : String)
  | list (items : List Json)
  | record (members : List (String × Json))
  -- A text that escapes half of a surrogate pair, or a record with such a key. It has the form of a
  -- document and can be skipped, but nothing can be read from it.
  | unreadable
  deriving Inhabited, BEq, Repr

namespace Json

def integer (value : Int) : Json := .number (toString value)

def natural (value : Nat) : Json := .number (toString value)

-- A float by its shortest decimal. What is not finite has no number and is written as null.
def float (value : Float) : Json :=
  if value.isFinite then .number (Decimal.text .document value) else .null

def optional {α : Type} (write : α → Json) (value : Option α) : Json :=
  match value with
  | some v => write v
  | none => .null

end Json

-- Writing typed values into a document, whatever notation it is to be written in.
class Sink (ν : Type) where
  bool : Bool → ν
  integer : Int → ν
  float : Float → ν
  text : String → ν
  list : List ν → ν
  record : List (String × ν) → ν

namespace Sink

variable {ν α : Type} [Sink ν]

def field (name : String) (value : ν) : List (String × ν) := [(name, value)]

def fieldIf (name : String) (write : α → ν) (value : Option α) : List (String × ν) :=
  (value.map fun v => (name, write v)).toList

end Sink

instance : Sink Json where
  bool := .bool
  integer := .integer
  float := .float
  text := .text
  list := .list
  record := .record

end Chronomata
