import Chronomata.Definition.Draft
import Chronomata.Proofs.Definition.Validity
import Chronomata.Proofs.Text.Bytes

-- Loading loses nothing: an automaton gives back the definition that it was loaded from, with its entries
-- put in order and named. Loading that again gives the same automaton.
namespace Chronomata

namespace SortedMap

universe u v

variable {κ : Type u} {α : Type v} [Ord κ] [Std.TransOrd κ] [Std.LawfulEqOrd κ]

-- Entries whose keys are distinct are only put in order.
theorem entries_ofEntries_perm {entries : List (κ × α)} (distinct : (entries.map (·.1)).Nodup) :
    (ofEntries entries).entries.Perm entries := by
  have whole : (ofEntries entries).entries.Nodup := (ofEntries entries).keys_nodup.of_map
  refine (List.perm_ext_iff_of_nodup whole distinct.of_map).mpr ?_
  rintro ⟨key, value⟩
  rw [mem_entries]
  refine ⟨get?_ofEntries, ?_⟩
  intro member
  have known : key ∈ (ofEntries entries).keys :=
    mem_keys_ofEntries.mpr (List.mem_map.mpr ⟨_, member, rfl⟩)
  obtain ⟨other, found⟩ := mem_keys.mp known
  cases List.inj_on_of_nodup_map distinct (get?_ofEntries found) member rfl
  exact found

theorem ofEntries_perm {entries entries' : List (κ × α)} (same : entries'.Perm entries)
    (distinct : (entries.map (·.1)).Nodup) : ofEntries entries' = ofEntries entries := by
  have distinct' : (entries'.map (·.1)).Nodup := (same.map _).nodup_iff.mpr distinct
  have listed := ((entries_ofEntries_perm distinct').trans same).trans
    (entries_ofEntries_perm distinct).symm
  refine ext_get? ?_
  intro key
  refine Option.ext ?_
  intro value
  rw [← mem_entries, ← mem_entries, listed.mem_iff]

end SortedMap

namespace Automaton

open Definition

variable {d : Definition} {a : Automaton}

theorem load_of_valid (valid : Valid d) : load d = .ok {
    version := d.version
    header := d.header
    initial := d.initial
    states := .ofEntries (d.states.map State.named)
    transitions := .ofEntries (d.transitions.map Transition.named)
    inputs := d.inputs
    outputs := d.outputs
    isDirty := false } := by
  have states : d.states.map (fun e => (e.1, { e.2 with id := e.1 })) = d.states.map State.named :=
    List.map_congr_left fun e member => (valid.states e member).named_eq.symm
  have transitions : d.transitions.map (fun e => (e.1, { e.2 with id := e.1 })) =
      d.transitions.map Transition.named :=
    List.map_congr_left fun e member => (valid.transitions e member).named_eq.symm
  unfold load
  rw [issues_eq_nil.mpr valid, states, transitions]

theorem valid_of_load (loaded : load d = .ok a) : Valid d :=
  issues_eq_nil.mp ((load_eq_ok_iff d).mp ⟨a, loaded⟩)

-- What an automaton gives back is what it was loaded from, put in order.
theorem toDefinition_of_load (loaded : load d = .ok a) :
    a.toDefinition = { d with states := a.states.entries, transitions := a.transitions.entries } ∧
      a.states.entries.Perm (d.states.map State.named) ∧
      a.transitions.entries.Perm (d.transitions.map Transition.named) ∧ a.isDirty = false := by
  have valid := valid_of_load loaded
  cases (load_of_valid valid).symm.trans loaded
  exact ⟨rfl, SortedMap.entries_ofEntries_perm valid.namedStatesDistinct,
    SortedMap.entries_ofEntries_perm valid.namedTransitionsDistinct, rfl⟩

-- Entries that were named keep their names.
theorem ofEntries_named {α : Type} {named : String × α → String × α}
    (twice : ∀ e, named (named e) = named e) {m : SortedMap String α} {entries : List (String × α)}
    (perm : m.entries.Perm (entries.map named)) : .ofEntries (m.entries.map named) = m := by
  have same : m.entries.map named = m.entries := by
    refine (List.map_congr_left ?_).trans (List.map_id m.entries)
    intro e member
    obtain ⟨stated, _, rfl⟩ := List.mem_map.mp (perm.mem_iff.mp member)
    exact twice stated
  rw [same, SortedMap.ofEntries_entries]

theorem load_toDefinition (loaded : load d = .ok a) : load a.toDefinition = .ok a := by
  obtain ⟨back, states, transitions, clean⟩ := toDefinition_of_load loaded
  have valid := (valid_of_load loaded).rearranged states transitions
  have again := load_of_valid (back ▸ valid)
  simp only [toDefinition, ofEntries_named State.named_named states,
    ofEntries_named Transition.named_named transitions] at again
  rw [toDefinition, again, ← clean]

-- The ids of transitions by the state that they leave, gathered in one pass over the transitions.
def gather (index : SortedMap String (List String)) (t : Transition) :
    SortedMap String (List String) :=
  index.insert t.source ((index.get? t.source).getD [] ++ [t.id])

def outgoing (a : Automaton) : SortedMap String (List String) :=
  a.transitions.values.foldl gather .empty

theorem gathered (transitions : List Transition) (index : SortedMap String (List String))
    (state : String) :
    ((transitions.foldl gather index).get? state).getD [] =
      (index.get? state).getD [] ++ (transitions.filter (·.source == state)).map (·.id) := by
  induction transitions generalizing index with
  | nil => simp
  | cons t rest ih =>
    rw [List.foldl_cons, ih, gather, SortedMap.get?_insert]
    by_cases leaves : state = t.source
    · simp [leaves]
    · simp [leaves, Ne.symm leaves]

-- Looking the ids up gives the transitions that leave the state.
theorem outgoing_transitionsFrom (wellFormed : WellFormed a) (state : String) :
    ((a.outgoing.get? state).getD []).filterMap a.transitions.get? = a.transitionsFrom state := by
  rw [outgoing, gathered, SortedMap.get?_empty, Option.getD_none, List.nil_append, List.filterMap_map]
  refine (List.filterMap_congr ?_).trans List.filterMap_some
  intro t member
  obtain ⟨key, found⟩ := SortedMap.mem_values.mp (List.mem_filter.mp member).1
  rw [Function.comp_apply, wellFormed.identified found, found]

theorem mem_transitionsFrom {state : String} {t : Transition} :
    t ∈ a.transitionsFrom state ↔ t ∈ a.transitions.values ∧ t.source = state := by
  rw [transitionsFrom, List.mem_filter, beq_iff_eq]

theorem transitionsFrom_increase (wellFormed : WellFormed a) (state : String) :
    (a.transitionsFrom state).Pairwise fun t u => Text.bytes t.id < Text.bytes u.id := by
  apply List.Pairwise.filter
  apply List.pairwise_map.mpr
  apply a.transitions.increasing.imp_of_mem
  rintro ⟨key, t⟩ ⟨key', u⟩ listed listed' before
  rw [wellFormed.identified (SortedMap.mem_entries.mp listed),
    wellFormed.identified (SortedMap.mem_entries.mp listed')]
  exact Text.compare_eq_lt.mp before

def InKeyOrder {α : Type} (entries : List (String × α)) : Prop :=
  entries.Pairwise fun e f => Text.bytes e.1 < Text.bytes f.1

theorem entries_inKeyOrder {α : Type} (m : SortedMap String α) : InKeyOrder m.entries :=
  m.increasing.imp Text.compare_eq_lt.mp

-- An entry stands in the map once, under its key.
theorem found_once {α : Type} [DecidableEq α] {m : SortedMap String α}
    {entries : List (String × α)} (perm : m.entries.Perm entries) {e : String × α}
    (member : e ∈ entries) : m.entries.count e = 1 ∧ m.get? e.1 = some e.2 := by
  have listed : e ∈ m.entries := perm.mem_iff.mpr member
  exact ⟨List.count_eq_one_of_mem m.keys_nodup.of_map listed, SortedMap.mem_entries.mp listed⟩

theorem loaded_exact (loaded : load d = .ok a) :
    load a.toDefinition = .ok a ∧
      (∃ states transitions, a.toDefinition = { d with states, transitions } ∧
        states.Perm (d.states.map State.named) ∧ InKeyOrder states ∧
        transitions.Perm (d.transitions.map Transition.named) ∧ InKeyOrder transitions) ∧
      (∀ e ∈ d.states, a.states.entries.count (State.named e) = 1 ∧
        a.states.get? e.1 = some (State.named e).2) ∧
      (∀ e ∈ d.transitions, a.transitions.entries.count (Transition.named e) = 1 ∧
        a.transitions.get? e.1 = some (Transition.named e).2) ∧
      a.initial ∈ a.states.keys ∧
      (∀ t ∈ a.transitions.values, t.source ∈ a.states.keys ∧ t.target ∈ a.states.keys) ∧
      ∀ state, (∀ t, t ∈ a.transitionsFrom state ↔ t ∈ a.transitions.values ∧ t.source = state) ∧
        (a.transitionsFrom state).Pairwise (fun t u => Text.bytes t.id < Text.bytes u.id) ∧
        ((a.outgoing.get? state).getD []).filterMap a.transitions.get? = a.transitionsFrom state := by
  have wellFormed := load_wellFormed loaded
  obtain ⟨back, states, transitions, _⟩ := toDefinition_of_load loaded
  refine ⟨load_toDefinition loaded, ?_, ?_, ?_, wellFormed.initial, ?_, ?_⟩
  · exact ⟨_, _, back, states, entries_inKeyOrder a.states, transitions,
      entries_inKeyOrder a.transitions⟩
  · intro e member
    exact found_once states (List.mem_map_of_mem member)
  · intro e member
    exact found_once transitions (List.mem_map_of_mem member)
  · intro t member
    obtain ⟨key, found⟩ := SortedMap.mem_values.mp member
    exact ⟨wellFormed.source found, wellFormed.target found⟩
  · intro state
    exact ⟨fun t => mem_transitionsFrom, transitionsFrom_increase wellFormed state,
      outgoing_transitionsFrom wellFormed state⟩

-- A crossing whose entries are out of order, most of them without an id of their own.
def crossed : Definition where
  version := "1"
  header := ⟨"crossing", .inline, "lua", "", [], none⟩
  initial := "stop"
  states := [("walk", .plain ""), ("stop", .plain "stop")]
  transitions := [("push", { (TransitionDraft.new "").rest with source := "stop", target := "walk" }),
    ("halt", { (TransitionDraft.new "").rest with source := "walk", target := "stop" }),
    ("hold", { (TransitionDraft.new "hold").rest with source := "stop", target := "stop" })]
  inputs := .empty
  outputs := .empty

theorem loaded_exact_crossed : ∃ a, load crossed = .ok a ∧ load a.toDefinition = .ok a ∧
    a.states.keys = ["stop", "walk"] ∧ (a.transitionsFrom "stop").map (·.id) = ["hold", "push"] ∧
    (a.transitionsFrom "stop").Pairwise (fun t u => Text.bytes t.id < Text.bytes u.id) ∧
    a.transitions.entries.count ("halt", { (TransitionDraft.new "halt").rest with
      source := "walk", target := "stop" }) = 1 := by
  have fine : crossed.issues = [] := by decide +kernel
  have loaded := load_of_valid (issues_eq_nil.mp fine)
  obtain ⟨again, _, _, once, _, _, leaving⟩ := loaded_exact loaded
  refine ⟨_, loaded, again, by decide +kernel, by decide +kernel, (leaving "stop").2.1, ?_⟩
  exact (once ("halt", { (TransitionDraft.new "").rest with source := "walk", target := "stop" })
    (by decide +kernel)).1

end Automaton

end Chronomata
