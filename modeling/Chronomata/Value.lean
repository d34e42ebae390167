import Chronomata.Source
import Chronomata.Sorted.Map
import Chronomata.Text.Quoted
import Chronomata.Text.Basic

-- Values of inputs, outputs and variables, the types they have, and how they are declared: by a name, and after
-- a colon the name of a type.
namespace Chronomata

inductive Value where
  | bool (value : Bool)
  | int (value : Int64)
  | str (value : String)
  | void
  deriving DecidableEq, Repr, Inhabited

inductive ValueType where
  | bool
  | int
  | string
  | void
  deriving DecidableEq, Repr

abbrev Values := SortedMap String Value

namespace ValueType

def zero : ValueType → Value
  | .bool => .bool false
  | .int => .int 0
  | .string => .str ""
  | .void => .void

def name : ValueType → String
  | .bool => "bool"
  | .int => "int"
  | .string => "string"
  | .void => "void"

-- The type of a name that may stand in a declaration. Void is declared by no name.
def declared? (name : String) : Option ValueType :=
  if name = "int" then some .int
  else if name = "bool" then some .bool
  else if name = "string" then some .string
  else none

end ValueType

namespace Value

def type : Value → ValueType
  | .bool _ => .bool
  | .int _ => .int
  | .str _ => .string
  | .void => .void

-- Whether a value counts as true when it is used as a flag: false, zero, the empty text and void do
-- not.
def isTruthy : Value → Bool
  | .bool b => b
  | .int i => i != 0
  | .str s => !s.isEmpty
  | .void => false

def display : Value → String
  | .bool true => "true"
  | .bool false => "false"
  | .int i => toString i.toInt
  | .str s => Text.quoted s
  | .void => "void"

theorem zero_type (t : ValueType) : t.zero.type = t := by cases t <;> rfl

theorem zero_not_truthy (t : ValueType) : t.zero.isTruthy = false := by cases t <;> rfl

def toJson : Value → Json
  | .bool b => .record [("bool", .bool b)]
  | .int i => .record [("int", .integer i.toInt)]
  | .str s => .record [("str", .text s)]
  | .void => .text "void"

def read? {ν : Type} [Source ν] (node : ν) : Option Value := do
  let (name, carried) ← Source.variant? node
  match name, carried with
  | "bool", some node => (Source.bool? node).map .bool
  | "int", some node => (Source.int64? node).map .int
  | "str", some node => (Source.text? node).map .str
  | "void", some node => if Source.isUnit node then some .void else none
  | "void", none => some .void
  | _, _ => none

end Value

namespace Values

def toJson (values : Values) : Json := .record (values.entries.map fun e => (e.1, e.2.toJson))

-- Read values by name; the last of several values under one name counts.
def read? {ν : Type} [Source ν] (node : ν) : Option Values :=
  (Source.map? Value.read? node).map SortedMap.ofEntries

end Values

structure Declaration where
  name : String
  type : ValueType
  deriving DecidableEq, Repr

namespace Declaration

-- Parse a declaration. A name without a type is a string; blanks around name and type are dropped.
-- There is none when the name is empty or the type is not known.
def parse (written : String) : Option Declaration :=
  let (name, behind) := written.toList.span (· ≠ ':')
  let name := Text.trim (String.ofList name)
  let type := match behind with
    | [] => some ValueType.string
    | _ :: typeName => ValueType.declared? (Text.trim (String.ofList typeName))
  if name.isEmpty then none else type.map (⟨name, ·⟩)

end Declaration

end Chronomata
