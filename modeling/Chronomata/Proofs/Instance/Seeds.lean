import Chronomata.Proofs.Automaton.Rescaling
import Chronomata.Proofs.Instance.Runs

-- The first values of an instance: under one name there is one value, and where states do not agree about its
-- type, the first declaration counts.
namespace Chronomata

open Text

-- Where something is declared: in a state, by a text.
structure Site where
  state : String
  text : String

def Site.Before (p q : Site) : Prop :=
  bytes p.state < bytes q.state ∨ p.state = q.state ∧ bytes p.text < bytes q.text

theorem Site.Before.asymm {p q : Site} (before : p.Before q) : ¬ q.Before p := by
  rintro (after | ⟨same, after⟩)
  · rcases before with before | ⟨same, _⟩
    · exact List.lt_irrefl _ (List.lt_trans before after)
    · exact List.lt_irrefl _ (same ▸ after)
  · rcases before with before | ⟨_, before⟩
    · exact List.lt_irrefl _ (same ▸ before)
    · exact List.lt_irrefl _ (List.lt_trans before after)

namespace Automaton

variable {a : Automaton} {declared : State → SortedSet String} {p q : Site} {d e : Declaration}

-- A state has a text in one of its sets, and the text declares something.
structure Declares (a : Automaton) (declared : State → SortedSet String) (p : Site) (d : Declaration) :
    Prop where
  stated : ∃ s, a.states.get? p.state = some s ∧ p.text ∈ (declared s).toList
  parsed : Declaration.parse p.text = some d

-- No declaration of the same name comes before.
structure First (a : Automaton) (declared : State → SortedSet String) (p : Site) (d : Declaration) : Prop
    extends Declares a declared p d where
  foremost : ∀ {q e}, Declares a declared q e → e.name = d.name → p = q ∨ p.Before q

-- The values of what is declared in one of the sets.
structure Seeded (a : Automaton) (declared : State → SortedSet String) (values : Values) : Prop where
  first : ∀ {p d}, Declares a declared p d → ∃ q e, First a declared q e ∧ e.name = d.name
  zero : ∀ {p d}, First a declared p d → values.get? d.name = some d.type.zero
  own : ∀ {p d}, Declares a declared p d →
    (values.get? d.name = some d.type.zero ↔
      ∀ q e, First a declared q e → e.name = d.name → e.type = d.type)
  names : ∀ name, name ∈ values.keys ↔ ∃ p d, Declares a declared p d ∧ d.name = name

def sites (a : Automaton) (declared : State → SortedSet String) : List Site :=
  a.states.entries.flatMap fun s => (declared s.2).toList.map (⟨s.1, ·⟩)

theorem mem_sites : p ∈ a.sites declared ↔
    ∃ s, a.states.get? p.state = some s ∧ p.text ∈ (declared s).toList := by
  simp only [sites, List.mem_flatMap, List.mem_map]
  constructor
  · rintro ⟨⟨key, s⟩, listed, text, stated, rfl⟩
    exact ⟨s, SortedMap.mem_entries.mp listed, stated⟩
  · rintro ⟨s, found, stated⟩
    exact ⟨(p.state, s), SortedMap.mem_entries.mpr found, p.text, stated, rfl⟩

theorem sites_inOrder (a : Automaton) (declared : State → SortedSet String) :
    (a.sites declared).Pairwise Site.Before := by
  refine List.pairwise_flatMap.mpr ⟨?_, ?_⟩
  · intro s _
    refine List.pairwise_map.mpr (List.pairwise_map.mpr ?_)
    exact (declared s.2).increasing.imp fun before => .inr ⟨rfl, compare_eq_lt.mp before⟩
  · refine a.states.increasing.imp ?_
    intro s t before p listed q listed'
    obtain ⟨text, _, rfl⟩ := List.mem_map.mp listed
    obtain ⟨text', _, rfl⟩ := List.mem_map.mp listed'
    exact .inl (compare_eq_lt.mp before)

-- The search for a declaration of one name.
def search (a : Automaton) (declared : State → SortedSet String) (name : String) : Option Declaration :=
  ((a.sites declared).filterMap (Declaration.parse ·.text)).find? (·.name = name)

theorem get?_foldl_insertNew (declarations : List Declaration) (values : Values) (name : String) :
    (declarations.foldl (fun values d => values.insertNew d.name d.type.zero) values).get? name =
      (values.get? name).or ((declarations.find? (·.name = name)).map (·.type.zero)) := by
  induction declarations generalizing values with
  | nil => simp
  | cons d rest ih =>
    rw [List.foldl_cons, ih, SortedMap.get?_insertNew, List.find?_cons]
    by_cases same : name = d.name
    · subst same
      cases values.get? d.name <;> simp
    · simp [same, Ne.symm same]

theorem get?_firstValues (a : Automaton) (declared : State → SortedSet String) (name : String) :
    (a.firstValues declared).get? name = (a.search declared name).map (·.type.zero) := by
  have texts : (a.states.values.flatMap fun s => (declared s).toList) =
      (a.sites declared).map (·.text) := by
    simp only [sites, SortedMap.values, List.map_flatMap, List.flatMap_map, List.map_map,
      Function.comp_def, List.map_id']
  unfold firstValues zeroValues search
  rw [get?_foldl_insertNew, SortedMap.get?_empty, Option.none_or, texts, List.filterMap_map,
    Function.comp_def]

-- In a list that stands in order, what is found is the least of what is sought.
theorem least_of_find? {sites : List Site} (ordered : sites.Pairwise Site.Before) {sought : Site → Bool}
    (found : sites.find? sought = some p) : ∀ q ∈ sites, sought q = true → p = q ∨ p.Before q := by
  obtain ⟨_, before, after, rfl, passed⟩ := List.find?_eq_some_iff_append.mp found
  obtain ⟨_, behind, _⟩ := List.pairwise_append.mp ordered
  intro q member holds
  rcases List.mem_append.mp member with early | late
  · have missed := passed q early
    rw [holds] at missed
    cases missed
  · rcases List.mem_cons.mp late with rfl | late
    · exact .inl rfl
    · exact .inr ((List.pairwise_cons.mp behind).1 q late)

theorem search_first {name : String} (found : a.search declared name = some d) :
    d.name = name ∧ ∃ p, First a declared p d := by
  unfold search at found
  have named := List.find?_some found
  rw [decide_eq_true_eq] at named
  rw [List.find?_filterMap] at found
  obtain ⟨p, there, parsed⟩ := Option.bind_eq_some_iff.mp found
  refine ⟨named, p, ⟨mem_sites.mp (List.mem_of_find?_eq_some there), parsed⟩, ?_⟩
  intro q e declares same
  refine least_of_find? (a.sites_inOrder declared) there q (mem_sites.mpr declares.stated) ?_
  rw [declares.parsed, Option.any_some]
  exact decide_eq_true (same.trans named)

theorem search_some (declares : Declares a declared p d) : ∃ e, a.search declared d.name = some e := by
  apply Option.isSome_iff_exists.mp
  apply List.find?_isSome.mpr
  exact ⟨d, List.mem_filterMap.mpr ⟨p, mem_sites.mpr declares.stated, declares.parsed⟩, decide_eq_true rfl⟩

theorem First.unique (one : First a declared p d) (other : First a declared q e)
    (same : e.name = d.name) : d = e := by
  have place : p = q := by
    rcases one.foremost other.toDeclares same with here | before
    · exact here
    · rcases other.foremost one.toDeclares same.symm with here | after
      · exact here.symm
      · exact absurd after before.asymm
  subst place
  exact Option.some.inj (one.parsed.symm.trans other.parsed)

theorem First.search_eq (one : First a declared p d) : a.search declared d.name = some d := by
  obtain ⟨e, found⟩ := search_some one.toDeclares
  obtain ⟨named, q, other⟩ := search_first found
  rw [found, one.unique other named]

theorem firstValues_seeded (a : Automaton) (declared : State → SortedSet String) :
    Seeded a declared (a.firstValues declared) where
  first declares := by
    obtain ⟨e, found⟩ := search_some declares
    obtain ⟨named, q, first⟩ := search_first found
    exact ⟨q, e, first, named⟩
  zero first := by rw [get?_firstValues, first.search_eq, Option.map_some]
  own {p d} declares := by
    obtain ⟨e, found⟩ := search_some declares
    obtain ⟨named, q, first⟩ := search_first found
    rw [get?_firstValues, found, Option.map_some, Option.some.injEq]
    constructor
    · intro zero r c other same
      rw [← first.unique other (same.trans named.symm), ← Value.zero_type e.type, zero, Value.zero_type]
    · intro types
      rw [types q e first named]
  names name := by
    rw [SortedMap.mem_keys]
    constructor
    · rintro ⟨value, there⟩
      rw [get?_firstValues] at there
      obtain ⟨d, found, _⟩ := Option.map_eq_some_iff.mp there
      obtain ⟨named, p, first⟩ := search_first found
      exact ⟨p, d, first.toDeclares, named⟩
    · rintro ⟨p, d, declares, rfl⟩
      obtain ⟨e, found⟩ := search_some declares
      exact ⟨e.type.zero, by rw [get?_firstValues, found, Option.map_some]⟩

theorem Ready.declares (ready : Ready a) {key text : String} {s : State}
    (known : a.states.get? key = some s)
    (stated : text ∈ s.locals.toList ∨ text ∈ s.inputs.toList ∨ text ∈ s.outputs.toList) :
    ∃ d, Declaration.parse text = some d := by
  have fits := ready.sound.structured.states (key, s) (SortedMap.mem_entries.mpr known)
  exact Option.isSome_iff_exists.mp (fits.declared text (Definition.mem_declarations.mpr stated))

end Automaton

namespace Instance

open Automaton

-- An instance that holds the first values of its automaton.
structure Seeded (a : Automaton) (i : Instance) : Prop where
  locals : a.Seeded (·.locals) i.locals
  inputs : a.Seeded (·.inputs) i.inputs
  outputs : a.Seeded (·.outputs) i.outputs

theorem new_seeded (device : String) (a : Automaton) (now : Instant) :
    Seeded a (Instance.new device a now) :=
  ⟨firstValues_seeded a _, firstValues_seeded a _, firstValues_seeded a _⟩

-- Every declaration of a state is one, and under its name a new instance holds the zero of the first
-- declaration of that name. So does an instance after a reset, whatever became of it before.
theorem seeded_exact {a : Automaton} (ready : Ready a) :
    (∀ key s, a.states.get? key = some s →
      ∀ text, text ∈ s.locals.toList ∨ text ∈ s.inputs.toList ∨ text ∈ s.outputs.toList →
        ∃ d, Declaration.parse text = some d) ∧
      (∀ device now, Seeded a (Instance.new device a now)) ∧
      ∀ (i : Instance) (now : Instant) (after : Instance),
        i.automaton = a → i.reset now = .ok after → Seeded a after := by
  refine ⟨fun key s known text stated => ready.declares known stated, fun device => new_seeded device a, ?_⟩
  rintro i now after rfl back
  rw [(reset_eq_new back).2]
  exact new_seeded i.device i.automaton now

-- Two states that call one thing a flag and a number. The map keeps the flag of the first.
namespace Sharing

def places : List (String × State) :=
  [("A", { State.plain "A" with locals := .ofList ["x:bool"] }),
    ("B", { State.plain "B" with locals := .ofList ["x:int"] })]

def definition : Definition where
  version := "1"
  header := ⟨"shared", .inline, "lua", "", [], none⟩
  initial := "B"
  states := places
  transitions := []
  inputs := SortedMap.empty
  outputs := SortedMap.empty

def shared : Automaton where
  version := "1"
  header := ⟨"shared", .inline, "lua", "", [], none⟩
  initial := "B"
  states := .ofEntries places
  transitions := SortedMap.empty
  inputs := SortedMap.empty
  outputs := SortedMap.empty
  isDirty := false

theorem declares_number : shared.Declares (·.locals) ⟨"B", "x:int"⟩ ⟨"x", .int⟩ :=
  ⟨mem_sites.mp (.tail _ (.head _)), by decide +kernel⟩

end Sharing

open Sharing in
theorem seeded_exact_shared :
    load definition = .ok shared ∧ shared.Declares (·.locals) ⟨"B", "x:int"⟩ ⟨"x", .int⟩ ∧
      shared.First (·.locals) ⟨"A", "x:bool"⟩ ⟨"x", .bool⟩ ∧
      (Instance.new "d" shared .epoch).locals.get? "x" = some (.bool false) := by
  have loaded : load definition = .ok shared := by decide +kernel
  obtain ⟨_, fresh, _⟩ := seeded_exact (.loaded loaded)
  have earlier : shared.Declares (·.locals) ⟨"A", "x:bool"⟩ ⟨"x", .bool⟩ :=
    ⟨mem_sites.mp (.head _), by decide +kernel⟩
  have first : shared.First (·.locals) ⟨"A", "x:bool"⟩ ⟨"x", .bool⟩ := by
    refine ⟨earlier, ?_⟩
    intro q e declares _
    rcases mem_sites.mpr declares.stated with _ | ⟨_, _ | ⟨_, ⟨⟩⟩⟩
    · exact .inl rfl
    · exact .inr (.inl (by decide +kernel))
  exact ⟨loaded, declares_number, first, (fresh "d" .epoch).locals.zero first⟩

open Sharing in
theorem not_always_own_zero :
    ¬ ∀ (d : Definition) (a : Automaton), load d = .ok a → ∀ (p : Site) (e : Declaration),
      a.Declares (·.locals) p e → ∀ (device : String) (now : Instant),
        (Instance.new device a now).locals.get? e.name = some e.type.zero := by
  intro always
  have zero := always definition shared (by decide +kernel) _ _ declares_number "d" .epoch
  exact absurd zero (by decide +kernel)

end Instance

end Chronomata
