import Chronomata.Definition.Basic
import Chronomata.Yaml.Printer
import Chronomata.Yaml.Source

-- Definitions as documents. Reading takes the defaults for fields that are not there, and checks nothing
-- beyond the types of the fields; writing leaves out the fields that are absent.
namespace Chronomata

section Writing

variable {ν : Type} [Sink ν]

open Sink

def writeNames (names : SortedSet String) : ν := list (names.toList.map text)

def ScriptPlace.name : ScriptPlace → String
  | .inline => "inline"
  | .folder => "folder"

def Header.write (h : Header) : ν :=
  record <| field "name" (text h.name) ++ field "type" (text h.place.name)
    ++ field "language" (text h.language) ++ field "description" (text h.description)
    ++ field "tags" (list (h.tags.map text)) ++ fieldIf "location" text h.location

def Position.write (p : Position) : ν :=
  record <| field "x" (float p.x) ++ field "y" (float p.y)

def State.write (s : State) : ν :=
  record <| field "id" (text s.id) ++ field "name" (text s.name)
    ++ field "inputs" (writeNames s.inputs) ++ field "outputs" (writeNames s.outputs)
    ++ field "variables" (writeNames s.locals) ++ field "code" (text s.code)
    ++ fieldIf "onEnter" text s.onEnter ++ fieldIf "onExit" text s.onExit
    ++ field "isComposite" (Sink.bool s.isComposite) ++ fieldIf "position" Position.write s.position

def Chance.write (c : Chance) : ν :=
  record <| field "enabled" (Sink.bool c.enabled) ++ field "weight" (float c.weight)
    ++ fieldIf "condition" text c.condition

def FuzzyGuard.write (g : FuzzyGuard) : ν :=
  record <| field "enabled" (Sink.bool g.enabled) ++ field "expression" (text g.expression)
    ++ field "threshold" (float g.threshold)

def Transition.write (t : Transition) : ν :=
  record <| field "id" (text t.id) ++ field "from" (text t.source) ++ field "to" (text t.target)
    ++ fieldIf "condition" text t.condition ++ fieldIf "body" text t.body
    ++ field "priority" (integer t.priority.toInt) ++ field "weight" (float t.weight)
    ++ fieldIf "probabilistic" Chance.write t.chance
    ++ fieldIf "fuzzyGuard" FuzzyGuard.write t.fuzzyGuard

def Definition.write (d : Definition) : ν :=
  record <| field "version" (text d.version) ++ field "config" d.header.write
    ++ field "automata" (record <| field "initialState" (text d.initial)
      ++ field "states" (record (d.states.map fun e => (e.1, e.2.write)))
      ++ field "transitions" (record (d.transitions.map fun e => (e.1, e.2.write)))
      ++ field "inputs" (writeNames d.inputs) ++ field "outputs" (writeNames d.outputs))

end Writing

section Reading

variable {ν : Type} [Source ν]

open Source

def readNames? (node : ν) : Option (SortedSet String) := (list? text? node).map SortedSet.ofList

def ScriptPlace.read? (node : ν) : Option ScriptPlace :=
  choice? [("inline", .inline), ("folder", .folder)] node

def Header.read? (node : ν) : Option Header := do
  let fields ← fields? ["name", "type", "language", "description", "tags", "location"] node
  some {
    name := ← fields.get? "name" text?
    place := ← fields.getD? "type" .inline ScriptPlace.read?
    language := ← fields.getD? "language" "" text?
    description := ← fields.getD? "description" "" text?
    tags := ← fields.getD? "tags" [] (list? text?)
    location := ← fields.optional? "location" text? }

def Position.read? (node : ν) : Option Position := do
  let fields ← fields? ["x", "y"] node
  some { x := ← fields.get? "x" float?, y := ← fields.get? "y" float? }

def State.read? (node : ν) : Option State := do
  let fields ← fields? ["id", "name", "inputs", "outputs", "variables", "code", "onEnter",
    "onExit", "isComposite", "position"] node
  some {
    id := ← fields.getD? "id" "" text?
    name := ← fields.getD? "name" "" text?
    inputs := ← fields.getD? "inputs" SortedMap.empty readNames?
    outputs := ← fields.getD? "outputs" SortedMap.empty readNames?
    locals := ← fields.getD? "variables" SortedMap.empty readNames?
    code := ← fields.getD? "code" "" text?
    onEnter := ← fields.optional? "onEnter" text?
    onExit := ← fields.optional? "onExit" text?
    isComposite := ← fields.getD? "isComposite" false bool?
    position := ← fields.optional? "position" Position.read? }

def Chance.read? (node : ν) : Option Chance := do
  let fields ← fields? ["enabled", "weight", "condition"] node
  some {
    enabled := ← fields.get? "enabled" bool?
    weight := ← fields.getD? "weight" defaultWeight float?
    condition := ← fields.optional? "condition" text? }

def FuzzyGuard.read? (node : ν) : Option FuzzyGuard := do
  let fields ← fields? ["enabled", "expression", "threshold"] node
  some {
    enabled := ← fields.get? "enabled" bool?
    expression := ← fields.getD? "expression" "" text?
    threshold := ← fields.getD? "threshold" 0.0 float? }

def readPriority? (node : ν) : Option Int32 :=
  (bounded? Int32.minValue.toInt Int32.maxValue.toInt node).map Int32.ofInt

def Transition.read? (node : ν) : Option Transition := do
  let fields ← fields? ["id", "from", "to", "condition", "body", "priority", "weight",
    "probabilistic", "fuzzyGuard"] node
  some {
    id := ← fields.getD? "id" "" text?
    source := ← fields.get? "from" text?
    target := ← fields.get? "to" text?
    condition := ← fields.optional? "condition" text?
    body := ← fields.optional? "body" text?
    priority := ← fields.getD? "priority" 0 readPriority?
    weight := ← fields.getD? "weight" defaultWeight float?
    chance := ← fields.optional? "probabilistic" Chance.read?
    fuzzyGuard := ← fields.optional? "fuzzyGuard" FuzzyGuard.read? }

def Definition.read? (node : ν) : Option Definition := do
  let fields ← fields? ["version", "config", "automata"] node
  let version ← fields.get? "version" text?
  let header ← fields.get? "config" Header.read?
  let body ← fields.get? "automata"
    (fields? ["initialState", "states", "transitions", "inputs", "outputs"])
  some {
    version, header
    initial := ← body.get? "initialState" text?
    states := ← body.getD? "states" [] (map? State.read?)
    transitions := ← body.getD? "transitions" [] (map? Transition.read?)
    inputs := ← body.getD? "inputs" SortedMap.empty readNames?
    outputs := ← body.getD? "outputs" SortedMap.empty readNames? }

end Reading

def leaves (names : List String) : List (String × Schema) := names.map (·, .leaf)

def namesSchema : Schema := .list .leaf

def Header.schema : Schema :=
  .record (("tags", namesSchema) :: leaves ["name", "type", "language", "description", "location"])

def State.schema : Schema :=
  .record ([("inputs", namesSchema), ("outputs", namesSchema), ("variables", namesSchema),
      ("position", .record (leaves ["x", "y"]))]
    ++ leaves ["id", "name", "code", "onEnter", "onExit", "isComposite"])

def Transition.schema : Schema :=
  .record ([("probabilistic", .record (leaves ["enabled", "weight", "condition"])),
      ("fuzzyGuard", .record (leaves ["enabled", "expression", "threshold"]))]
    ++ leaves ["id", "from", "to", "condition", "body", "priority", "weight"])

def Definition.schema : Schema :=
  .record [("version", .leaf), ("config", Header.schema),
    ("automata", .record [("initialState", .leaf), ("states", .map State.schema),
      ("transitions", .map Transition.schema), ("inputs", namesSchema), ("outputs", namesSchema)])]

namespace Definition

def toJson (d : Definition) : Json := d.write

def ofJsonText? (text : String) : Option Definition := do
  let document ← Json.parse text
  read? document

def toYamlText (d : Definition) : String := Yaml.Outline.text d.write

def ofYamlText? (text : String) : Option Definition := do
  let document ← Yaml.parse text
  if document.isBounded schema then read? document else none

end Definition

end Chronomata
