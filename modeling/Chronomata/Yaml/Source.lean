import Chronomata.Source
import Chronomata.Yaml.Node
import Chronomata.Yaml.Plain

-- Outline notation as a source of typed values. What a scalar can be read as hangs on its style. How often
-- aliases may be followed is limited by the length of the document.
namespace Chronomata

-- Which parts of a document are read. What stands under no field of a record that the schema names is never
-- looked at.
inductive Schema where
  | leaf
  | list (item : Schema)
  | map (value : Schema)
  | record (fields : List (String × Schema))

end Chronomata

namespace Chronomata.Yaml

structure Located where
  anchored : List (Nat × Node)
  node : Node

namespace Located

def elsewhere (l : Located) (node : Node) : Located := { l with node }

-- The value itself, or the one that an alias stands for: of several with an anchor, the one that
-- starts last.
def target (l : Located) : Option Node :=
  match l.node with
  | .alias number => l.anchored.reverse.lookup number
  | node => some node

def typeTag (name : String) : String := "tag:yaml.org,2002:" ++ name

def typedText? (type : String) (l : Located) : Option String := do
  match ← l.target with
  | .scalar p style text =>
    if style = .plain ∨ (style = .literal ∧ p.tag = some (typeTag type)) then some text else none
  | _ => none

def text? (l : Located) : Option String := do
  match ← l.target with
  | .scalar _ _ text => some text
  | _ => none

def meansNothing (text : String) : Bool := text.isEmpty || Plain.isNull text

-- Whether a value stands for nothing. A scalar that a tag says to be nothing must say so itself.
def absent? (l : Located) : Option Bool := do
  match ← l.target with
  | .scalar p .plain text =>
    match p.tag with
    | some tag =>
      if tag ≠ typeTag "null" then some false
      else if Plain.isNull text then some true
      else none
    | none => some (meansNothing text)
  | _ => some false

-- The items of a sequence; a plain scalar without text has none.
def items? (l : Located) : Option (List Located) := do
  match ← l.target with
  | .sequence _ items => some (items.map l.elsewhere)
  | .scalar _ .plain "" => some []
  | _ => none

-- The entries of a mapping; a plain scalar without text has none. Every key is a scalar.
def entries? (l : Located) : Option (List (String × Located)) := do
  match ← l.target with
  | .mapping _ entries =>
    entries.mapM fun e => ((l.elsewhere e.1).text?).map (·, l.elsewhere e.2)
  | .scalar _ .plain "" => some []
  | _ => none

def tagName? (p : Properties) : Option String := do
  match (← p.tag).toList with
  | '!' :: name => some (String.ofList name)
  | _ => none

-- An alternative is named by a tag, and carries the value behind it; or it is a scalar.
def variant? (l : Located) : Option (String × Option Located) := do
  let node ← l.target
  match node with
  | .scalar p _ text =>
    match tagName? p with
    | some name => some (name, some (l.elsewhere node))
    | none => some (text, none)
  | .sequence p _ | .mapping p _ => (tagName? p).map (·, some (l.elsewhere node))
  | .alias _ => none

def isUnit (l : Located) : Bool :=
  match l.target with
  | some (.scalar _ .plain text) => meansNothing text
  | _ => false

instance : Source Located where
  text? := text?
  bool? l := (l.typedText? "bool").bind Plain.bool?
  integer? l := (l.typedText? "int").bind Plain.integer?
  float? l := (l.typedText? "float").bind Plain.float?
  absent? := absent?
  items? := items?
  fieldItems? _ := none
  entries? := entries?
  variant? := variant?
  isUnit := isUnit

def hop (l : Located) : Nat :=
  match l.node with
  | .alias _ => 1
  | _ => 0

def parts (l : Located) : List Located :=
  match l.target with
  | some (.sequence _ items) => items.map l.elsewhere
  | _ => []

def pairs (l : Located) : List (Located × Located) :=
  match l.target with
  | some (.mapping _ entries) => entries.map fun e => (l.elsewhere e.1, l.elsewhere e.2)
  | _ => []

mutual

def hops : Schema → Located → Nat
  | .leaf, l => l.hop
  | .list item, l => (l.parts.map (hops item)).foldr (· + ·) l.hop
  | .map value, l => (l.pairs.map fun e => e.1.hop + hops value e.2).foldr (· + ·) l.hop
  | .record fields, l =>
    (l.pairs.map fun e => e.1.hop + hopsUnder fields (e.1.text?.getD "") e.2).foldr (· + ·) l.hop

-- How often aliases are followed when the value of a field is read, if the field is one of some.
def hopsUnder : List (String × Schema) → String → Located → Nat
  | [], _, _ => 0
  | (name, schema) :: rest, key, l => if name = key then hops schema l else hopsUnder rest key l

end

-- Whether a document can be read by a schema without following aliases more than a hundred times
-- for every mark of it.
def isBounded (schema : Schema) (l : Located) : Bool := l.hops schema ≤ 100 * l.node.size

end Located

def parse (text : String) : Option Located :=
  (Node.ofText? text).map fun node => ⟨node.anchored, node⟩

end Chronomata.Yaml
