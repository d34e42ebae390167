import Chronomata.Definition.Issue
import Chronomata.Definition.Notation
import Chronomata.Folder
import Chronomata.Bytes

-- Automata that are ready to run. An automaton comes from a definition in which nothing is wrong, so
-- its initial state and both ends of its transitions are states of it.
namespace Chronomata

structure Automaton where
  version : String
  header : Header
  initial : String
  states : SortedMap String State
  transitions : SortedMap String Transition
  inputs : SortedSet String
  outputs : SortedSet String
  isDirty : Bool
  deriving DecidableEq

namespace Automaton

-- The automaton of a definition, or everything that is wrong with the definition. Entries take
-- their key as id.
def load (d : Definition) : Except (List Issue) Automaton :=
  match d.issues with
  | [] => .ok {
      version := d.version
      header := d.header
      initial := d.initial
      states := .ofEntries (d.states.map fun e => (e.1, { e.2 with id := e.1 }))
      transitions := .ofEntries (d.transitions.map fun e => (e.1, { e.2 with id := e.1 }))
      inputs := d.inputs
      outputs := d.outputs
      isDirty := false }
  | issues => .error issues

def toDefinition (a : Automaton) : Definition where
  version := a.version
  header := a.header
  initial := a.initial
  states := a.states.entries
  transitions := a.transitions.entries
  inputs := a.inputs
  outputs := a.outputs

def id (a : Automaton) : String := a.header.name

def transitionsFrom (a : Automaton) (state : String) : List Transition :=
  a.transitions.values.filter (·.source == state)

def toJsonText (a : Automaton) : String := a.toDefinition.toJson.pretty

def toYamlText (a : Automaton) : String := a.toDefinition.toYamlText

def markClean (a : Automaton) : Automaton := { a with isDirty := false }

inductive LoadError where
  | malformedJson
  | malformedYaml
  | invalid (issues : List Issue)
  | missingFile (path : String)
  | unreadableFile (path reason : String)
  deriving DecidableEq

-- An error in words. What is malformed is told by its kind alone.
def LoadError.message : LoadError → String
  | .malformedJson | .malformedYaml => "malformed definition"
  | .invalid issues => Definition.issuesMessage issues
  | .missingFile path => s!"File not found: {path}"
  | .unreadableFile path reason => s!"failed to read {path}: {reason}"

def loadOr (malformed : LoadError) (definition : Option Definition) : Except LoadError Automaton :=
  match definition with
  | none => .error malformed
  | some d => (load d).mapError .invalid

def ofJsonText (text : String) : Except LoadError Automaton :=
  loadOr .malformedJson (Definition.ofJsonText? text)

def ofYamlText (text : String) : Except LoadError Automaton :=
  loadOr .malformedYaml (Definition.ofYamlText? text)

-- Whether a file of this name is in outline notation; any other is in object notation.
def isYamlFile (path : String) : Bool :=
  (Text.extension? path).any fun extension =>
    ["yaml", "yml"].contains (extension.map Char.toLower)

def ofFile (path : String) (found : Place) : Except LoadError Automaton :=
  match found with
  | .nothing => .error (.missingFile path)
  | .unreadable reason => .error (.unreadableFile path reason)
  | .file bytes =>
    match Text.ofUtf8? bytes with
    | none => .error (.unreadableFile path "stream did not contain valid UTF-8")
    | some text => if isYamlFile path then ofYamlText text else ofJsonText text

theorem load_eq_ok_iff (d : Definition) : (∃ a, load d = .ok a) ↔ d.issues = [] := by
  unfold load
  split <;> simp_all

end Automaton

end Chronomata
