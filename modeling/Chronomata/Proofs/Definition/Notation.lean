import Chronomata.Definition.Notation
import Chronomata.Proofs.Json.Fields
import Chronomata.Proofs.Sorted.Map

-- Definitions in object notation: the text of a definition is read as that definition when all of its floats
-- are finite, valid or not, and not at all when one of them is not.
namespace Chronomata

open Sink Source

def Position.isFinite (p : Position) : Bool := p.x.isFinite && p.y.isFinite

def State.isFinite (s : State) : Bool := s.position.all Position.isFinite

def Chance.isFinite (c : Chance) : Bool := c.weight.isFinite

def FuzzyGuard.isFinite (g : FuzzyGuard) : Bool := g.threshold.isFinite

def Transition.isFinite (t : Transition) : Bool :=
  t.weight.isFinite && t.chance.all Chance.isFinite && t.fuzzyGuard.all FuzzyGuard.isFinite

def Definition.isFinite (d : Definition) : Bool :=
  d.states.all (·.2.isFinite) && d.transitions.all (·.2.isFinite)

theorem SortedSet.ofList_toList (names : SortedSet String) :
    SortedSet.ofList names.toList = names := by
  have entries : ∀ elements : List String,
      SortedSet.ofList elements = SortedMap.ofEntries (elements.map (·, ())) := by
    intro elements
    rw [SortedMap.ofEntries, SortedMap.insertAll, List.foldl_map]
    rfl
  have same : names.toList.map (·, ()) = names.entries := by
    rw [SortedSet.toList, SortedMap.keys, List.map_map]
    exact List.map_id _
  rw [entries, same, SortedMap.ofEntries_entries]

theorem writeNames_faithful : Faithful writeNames readNames? := by
  refine ⟨fun names => Faithful.text.list.readable names.toList, ?_⟩
  intro names
  show (list? text? (Json.list (names.toList.map Json.text))).map SortedSet.ofList = some names
  rw [Faithful.text.list.reads, Option.map_some, SortedSet.ofList_toList]

-- What is written by a sink of object notation.
@[simp] theorem sink_text (value : String) : (text value : Json) = .text value := rfl

@[simp] theorem sink_bool (value : Bool) : (Sink.bool value : Json) = .bool value := rfl

@[simp] theorem sink_float (value : Float) : (float value : Json) = .float value := rfl

@[simp] theorem sink_integer (value : Int) : (integer value : Json) = .integer value := rfl

@[simp] theorem sink_record (members : List (String × Json)) :
    (record members : Json) = .record members := rfl

theorem optionalText_reads (value : Option String) :
    value.elim (some none) (optional? text? ∘ (text : String → Json)) = some value := by
  cases value <;> rfl

theorem place_reads (place : ScriptPlace) :
    ScriptPlace.read? (Json.text place.name) = some place := by
  cases place <;> rfl

theorem readPriority?_reads (priority : Int32) :
    readPriority? (Json.integer priority.toInt) = some priority := by
  have read : integer? (Json.integer priority.toInt) = some priority.toInt :=
    Json.literal?_integer priority.toInt
  have fits : Int32.minValue.toInt ≤ priority.toInt ∧ priority.toInt ≤ Int32.maxValue.toInt :=
    ⟨Int32.minValue_le_toInt priority, Int32.toInt_le priority⟩
  simp only [readPriority?, bounded?, read, Option.bind_eq_bind, Option.bind_some, if_pos fits,
    Option.map_some, Int32.ofInt_toInt]

theorem Header.faithful : FaithfulIf (fun _ => true) Header.write Header.read? := by
  refine FaithfulIf.record (by decide) ?_ ?_
  · intro h
    exact (written_field (.text h.name)).field (.text h.place.name)
      |>.field (.text h.language) |>.field (.text h.description)
      |>.field (Faithful.text.list.readable h.tags) |>.fieldIf .text
  · intro h
    have tags : list? text? (list (h.tags.map text) : Json) = some h.tags :=
      Faithful.text.list.reads h.tags
    simp [Fields.optional?, Fields.get?_eq, Fields.getD?_eq, List.lookup_append, optionalText_reads,
      Faithful.text.reads, place_reads, tags]

theorem Position.faithful : FaithfulIf Position.isFinite Position.write Position.read? := by
  refine FaithfulIf.record (by decide) ?_ ?_
  · intro p
    exact (written_field (.float p.x)).field (.float p.y)
  · intro p
    simp only [Position.isFinite, Bool.and_eq_true]
    simp [Fields.get?_eq, List.lookup_append, FaithfulIf.float.reads]
    by_cases x : p.x.isFinite <;> by_cases y : p.y.isFinite <;> simp [x, y]

theorem State.faithful : FaithfulIf State.isFinite State.write State.read? := by
  refine FaithfulIf.record (by decide) ?_ ?_
  · intro s
    exact (written_field (.text s.id)).field (.text s.name)
      |>.field (writeNames_faithful.readable s.inputs)
      |>.field (writeNames_faithful.readable s.outputs)
      |>.field (writeNames_faithful.readable s.locals) |>.field (.text s.code)
      |>.fieldIf .text |>.fieldIf .text |>.field (.bool s.isComposite)
      |>.fieldIf Position.faithful.readable
  · intro s
    have position := Position.faithful.optional (fun _ => rfl) s.position
    simp [Fields.optional?, Fields.getD?_eq, List.lookup_append, writeNames_faithful.reads,
      optionalText_reads, position, Faithful.text.reads, Faithful.bool.reads]
    by_cases finite : s.position.all Position.isFinite <;> simp [State.isFinite, finite]

theorem Chance.faithful : FaithfulIf Chance.isFinite Chance.write Chance.read? := by
  refine FaithfulIf.record (by decide) ?_ ?_
  · intro c
    exact (written_field (.bool c.enabled)).field (.float c.weight) |>.fieldIf .text
  · intro c
    simp [Fields.optional?, Fields.get?_eq, Fields.getD?_eq, List.lookup_append, optionalText_reads,
      Faithful.bool.reads, FaithfulIf.float.reads]
    by_cases finite : c.weight.isFinite <;> simp [Chance.isFinite, finite]

theorem FuzzyGuard.faithful : FaithfulIf FuzzyGuard.isFinite FuzzyGuard.write FuzzyGuard.read? := by
  refine FaithfulIf.record (by decide) ?_ ?_
  · intro g
    exact (written_field (.bool g.enabled)).field (.text g.expression) |>.field (.float g.threshold)
  · intro g
    simp [Fields.get?_eq, Fields.getD?_eq, List.lookup_append, Faithful.bool.reads,
      Faithful.text.reads, FaithfulIf.float.reads]
    by_cases finite : g.threshold.isFinite <;> simp [FuzzyGuard.isFinite, finite]

theorem Transition.faithful : FaithfulIf Transition.isFinite Transition.write Transition.read? := by
  refine FaithfulIf.record (by decide) ?_ ?_
  · intro t
    exact (written_field (.text t.id)).field (.text t.source) |>.field (.text t.target)
      |>.fieldIf .text |>.fieldIf .text |>.field (.integer t.priority.toInt)
      |>.field (.float t.weight) |>.fieldIf Chance.faithful.readable
      |>.fieldIf FuzzyGuard.faithful.readable
  · intro t
    have chance := Chance.faithful.optional (fun _ => rfl) t.chance
    have fuzzyGuard := FuzzyGuard.faithful.optional (fun _ => rfl) t.fuzzyGuard
    simp [Fields.optional?, Fields.get?_eq, Fields.getD?_eq, List.lookup_append, optionalText_reads,
      Faithful.text.reads, readPriority?_reads, FaithfulIf.float.reads, chance, fuzzyGuard]
    by_cases weight : t.weight.isFinite <;> by_cases some : t.chance.all Chance.isFinite <;>
      by_cases guarded : t.fuzzyGuard.all FuzzyGuard.isFinite <;>
        simp [Transition.isFinite, weight, some, guarded]

namespace Definition

-- The part of a definition that says how its automaton moves.
def body (d : Definition) : List (String × Json) :=
  field "initialState" (text d.initial)
    ++ field "states" (record (d.states.map fun e => (e.1, e.2.write)))
    ++ field "transitions" (record (d.transitions.map fun e => (e.1, e.2.write)))
    ++ field "inputs" (writeNames d.inputs) ++ field "outputs" (writeNames d.outputs)

theorem body_written (d : Definition) :
    Written ["initialState", "states", "transitions", "inputs", "outputs"] d.body :=
  (written_field (.text d.initial)).field (State.faithful.entries.readable d.states)
    |>.field (Transition.faithful.entries.readable d.transitions)
    |>.field (writeNames_faithful.readable d.inputs)
    |>.field (writeNames_faithful.readable d.outputs)

theorem faithful : FaithfulIf isFinite toJson read? := by
  refine FaithfulIf.record (by decide) ?_ ?_
  · intro d
    exact (written_field (.text d.version)).field (Header.faithful.readable d.header)
      |>.field (.record d.body_written.readable)
  · intro d
    have inside : fields? _ (Json.record d.body) = _ := d.body_written.fields?_eq (by decide)
    have header : Header.read? (d.header.write : Json) = some d.header :=
      Header.faithful.reads d.header
    have states := State.faithful.entries.reads d.states
    have transitions := Transition.faithful.entries.reads d.transitions
    simp [Fields.get?_eq, List.lookup_append, Faithful.text.reads, header]
    change (fields? _ (Json.record d.body)).bind _ = _
    rw [inside]
    simp [body, Fields.getD?_eq, List.lookup_append, Faithful.text.reads, states, transitions,
      writeNames_faithful.reads]
    by_cases first : d.states.all (·.2.isFinite) <;>
      by_cases second : d.transitions.all (·.2.isFinite) <;> simp only [isFinite, first, second] <;> rfl

theorem ofJsonText?_compact (d : Definition) :
    ofJsonText? d.toJson.compact = if d.isFinite then some d else none := by
  rw [ofJsonText?, Json.parse_compact (faithful.readable d)]
  exact faithful.reads d

theorem ofJsonText?_pretty (d : Definition) :
    ofJsonText? d.toJson.pretty = if d.isFinite then some d else none := by
  rw [ofJsonText?, Json.parse_pretty (faithful.readable d)]
  exact faithful.reads d

-- A definition is read from its text as it is, or not at all: nothing in it can drift.
theorem written_exact (d : Definition) :
    ofJsonText? d.toJson.compact = (if d.isFinite then some d else none) ∧
      ofJsonText? d.toJson.pretty = if d.isFinite then some d else none :=
  ⟨d.ofJsonText?_compact, d.ofJsonText?_pretty⟩

end Definition

end Chronomata
