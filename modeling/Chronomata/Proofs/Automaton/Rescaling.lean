import Chronomata.Proofs.Automaton.Loading
import Chronomata.Proofs.Selection.Choice
import Chronomata.Proofs.Selection.Scaling

-- Normalizing the transitions that leave a state touches their effective weights and nothing else. What comes
-- out loads again when no weight vanished; one that is too small a part of the total does.
namespace Chronomata

open Weights

namespace Automaton

variable {a b : Automaton} {state : String}

def outgoingWeights (a : Automaton) (state : String) : List Float :=
  (a.transitionsFrom state).map (·.effectiveWeight)

-- A transition after normalizing: one that leaves the state has its weight scaled.
def rescale (a : Automaton) (state : String) (t : Transition) : Transition :=
  if t.source = state then t.withEffectiveWeight (scale (a.outgoingWeights state) t.effectiveWeight)
  else t

def rescaled (a : Automaton) (state : String) : Automaton :=
  { a with transitions := a.transitions.map fun _ t => a.rescale state t, isDirty := true }

-- The written transitions, each written once under its id, as it was read.
def written (weight : Transition → Float) (m : SortedMap String Transition) (t : Transition) :
    SortedMap String Transition :=
  m.adjust t.id (·.withEffectiveWeight (weight t))

theorem get?_written {weight : Transition → Float} {transitions : List Transition}
    {m : SortedMap String Transition} (distinct : (transitions.map (·.id)).Nodup)
    (stored : ∀ t ∈ transitions, m.get? t.id = some t) (key : String) :
    (transitions.foldl (written weight) m).get? key = (m.get? key).map fun t =>
      if key ∈ transitions.map (·.id) then t.withEffectiveWeight (weight t) else t := by
  induction transitions generalizing m with
  | nil => simp
  | cons first rest ih =>
    obtain ⟨alone, distinct'⟩ := List.nodup_cons.mp distinct
    obtain ⟨here, others⟩ := List.forall_mem_cons.mp stored
    have stored' : ∀ t ∈ rest, (written weight m first).get? t.id = some t := by
      intro t member
      have apart : t.id ≠ first.id := by
        intro same
        exact alone (List.mem_map.mpr ⟨t, member, same⟩)
      rw [written, SortedMap.get?_adjust_ne _ apart]
      exact others t member
    rw [List.foldl_cons, ih distinct' stored']
    by_cases same : key = first.id
    · subst same
      simp [written, SortedMap.get?_adjust_self, here, alone]
    · rw [written, SortedMap.get?_adjust_ne _ same]
      simp [same]

theorem foldl_withWeight (weight : Transition → Float) (transitions : List Transition)
    (a : Automaton) : transitions.foldl (fun a t => a.withWeight t.id (weight t)) a =
      { a with
        transitions := transitions.foldl (written weight) a.transitions
        isDirty := a.isDirty || !transitions.isEmpty } := by
  induction transitions generalizing a with
  | nil => simp
  | cons first rest ih =>
    rw [List.foldl_cons, ih]
    simp [withWeight, written]

-- One write after another changes what all of them change at once.
theorem foldl_rescaled (wellFormed : WellFormed a) (some : a.transitionsFrom state ≠ []) :
    (a.transitionsFrom state).foldl (fun a' t =>
      a'.withWeight t.id (scale (a.outgoingWeights state) t.effectiveWeight)) a = a.rescaled state := by
  have distinct : ((a.transitionsFrom state).map (·.id)).Nodup := by
    refine List.pairwise_map.mpr ((transitionsFrom_increase wellFormed state).imp ?_)
    intro t u before same
    rw [same] at before
    exact List.lt_irrefl _ before
  have stored : ∀ t ∈ a.transitionsFrom state, a.transitions.get? t.id = .some t := by
    intro t member
    obtain ⟨key, found⟩ := SortedMap.mem_values.mp (mem_transitionsFrom.mp member).1
    rwa [wellFormed.identified found]
  have same : (a.transitionsFrom state).foldl
      (written fun t => scale (a.outgoingWeights state) t.effectiveWeight) a.transitions =
        a.transitions.map fun _ t => a.rescale state t := by
    refine SortedMap.ext_get? ?_
    intro key
    rw [get?_written distinct stored, SortedMap.get?_map]
    cases found : a.transitions.get? key with
    | none => rfl
    | some t =>
      have leaves : key ∈ (a.transitionsFrom state).map (·.id) ↔ t.source = state := by
        constructor
        · intro listed
          obtain ⟨u, member, same⟩ := List.mem_map.mp listed
          have found' := stored u member
          rw [same, found] at found'
          cases found'
          exact (mem_transitionsFrom.mp member).2
        · intro leaves
          have member := mem_transitionsFrom.mpr ⟨SortedMap.mem_values.mpr ⟨key, found⟩, leaves⟩
          exact List.mem_map.mpr ⟨t, member, wellFormed.identified found⟩
      simp [rescale, leaves]
  rw [foldl_withWeight, same, rescaled]
  simp [some]

theorem normalizeOutgoing_eq (a : Automaton) (state : String) :
    a.normalizeOutgoing state = (normalize (a.outgoingWeights state)).map fun weights =>
      ((a.transitionsFrom state).zip weights).foldl (fun a (t, weight) => a.withWeight t.id weight) a := by
  unfold normalizeOutgoing outgoingWeights
  dsimp only
  cases normalize ((a.transitionsFrom state).map (·.effectiveWeight)) <;> rfl

theorem normalizeOutgoing_eq_error {cause : WeightError} :
    a.normalizeOutgoing state = .error cause ↔ normalize (a.outgoingWeights state) = .error cause := by
  rw [normalizeOutgoing_eq]
  cases normalize (a.outgoingWeights state) <;> simp [Except.map]

-- What has a total that is not nothing is not empty.
theorem some_of_total (some : (total (a.outgoingWeights state) == 0) = false) :
    a.transitionsFrom state ≠ [] := by
  intro none
  rw [outgoingWeights, none] at some
  cases some

theorem normalizeOutgoing_eq_ok (wellFormed : WellFormed a) :
    a.normalizeOutgoing state = .ok b ↔
      (∀ w ∈ a.outgoingWeights state, isValid w = true) ∧
        (total (a.outgoingWeights state) == 0) = false ∧ b = a.rescaled state := by
  have zipped : ∀ f : Float → Float,
      ((a.transitionsFrom state).zip ((a.outgoingWeights state).map f)).foldl
          (fun a (t, weight) => a.withWeight t.id weight) a =
        (a.transitionsFrom state).foldl (fun a' t => a'.withWeight t.id (f t.effectiveWeight)) a := by
    intro f
    have paired : (a.transitionsFrom state).zip ((a.transitionsFrom state).map fun t =>
        f t.effectiveWeight) = (a.transitionsFrom state).map fun t => (t, f t.effectiveWeight) := by
      simpa using List.zip_map' (f := fun t => t) (g := fun t : Transition => f t.effectiveWeight)
    rw [outgoingWeights, List.map_map, Function.comp_def, paired, List.foldl_map]
  rw [normalizeOutgoing_eq]
  constructor
  · intro changed
    cases scaled : normalize (a.outgoingWeights state) with
    | error cause => rw [scaled] at changed; cases changed
    | ok weights =>
      rw [scaled] at changed
      obtain ⟨valid, some, rfl⟩ := normalize_eq_ok.mp scaled
      cases changed
      exact ⟨valid, some, (zipped _).trans (foldl_rescaled wellFormed (some_of_total some))⟩
  · rintro ⟨valid, some, rfl⟩
    rw [normalize_eq_ok.mpr ⟨valid, some, rfl⟩]
    exact congrArg Except.ok ((zipped _).trans (foldl_rescaled wellFormed (some_of_total some)))

-- Normalizing in place: read the weights, then write one after another. Until all weights are known
-- nothing is written.
def normalizeInPlace (state : String) : ExceptT WeightError (StateM Automaton) Unit := do
  let outgoing := (← get).transitionsFrom state
  let weights ← Weights.normalize (outgoing.map (·.effectiveWeight))
  (outgoing.zip weights).forM fun (t, weight) => modify (·.withWeight t.id weight)

theorem forM_withWeight (weights : List (Transition × Float)) (a : Automaton) :
    (weights.forM (m := ExceptT WeightError (StateM Automaton))
      fun (t, weight) => modify (·.withWeight t.id weight)).run.run a =
      (.ok (), weights.foldl (fun a (t, weight) => a.withWeight t.id weight) a) := by
  induction weights generalizing a with
  | nil => rfl
  | cons head rest ih => exact ih _

theorem normalizeInPlace_run (a : Automaton) (state : String) :
    (normalizeInPlace state).run.run a = match a.normalizeOutgoing state with
      | .error cause => (.error cause, a)
      | .ok b => (.ok (), b) := by
  -- What is done with the weights, once they are known.
  let write (weights : List Float) : ExceptT WeightError (StateM Automaton) Unit :=
    ((a.transitionsFrom state).zip weights).forM fun (t, weight) => modify (·.withWeight t.id weight)
  show (ExceptT.bindCont write (normalize (a.outgoingWeights state))).run a = _
  rw [normalizeOutgoing_eq]
  cases normalize (a.outgoingWeights state) with
  | error cause => rfl
  | ok weights => exact forM_withWeight _ a

-- A transition that was given another weight: the one that counts, in whichever field it is.
structure Reweighed (t u : Transition) : Prop where
  rest : u = { t with weight := u.weight, chance := u.chance }
  certain : t.isProbabilistic = false → u.chance = t.chance
  probabilistic : t.isProbabilistic = true →
    u.weight = t.weight ∧ u.chance = t.chance.map fun c => { c with weight := u.effectiveWeight }

theorem reweighed (t : Transition) (weight : Float) : Reweighed t (t.withEffectiveWeight weight) := by
  obtain ⟨_, _, _, _, _, _, _, chance, _⟩ := t
  cases chance with
  | none => exact ⟨rfl, fun _ => rfl, fun drawn => by cases drawn⟩
  | some c =>
    obtain ⟨enabled, _, _⟩ := c
    cases enabled with
    | false => exact ⟨rfl, fun _ => rfl, fun drawn => by cases drawn⟩
    | true => exact ⟨rfl, fun certain => (by cases certain), fun _ => ⟨rfl, rfl⟩⟩

end Automaton

namespace Definition

-- A definition that is valid but for its weights.
structure Structured (d : Definition) : Prop where
  located : (d.header.place != .folder || d.header.location.isSome) = true
  statesDistinct : (d.states.map (·.1)).Nodup
  states : ∀ e ∈ d.states, StateFits e.1 e.2
  initial : d.initial ∈ d.stateKeys
  transitionsDistinct : (d.transitions.map (·.1)).Nodup
  transitions : ∀ e ∈ d.transitions,
    e.2.source ∈ d.stateKeys ∧ e.2.target ∈ d.stateKeys ∧ (e.2.id = "" ∨ e.2.id = e.1)

theorem valid_iff {d : Definition} :
    Valid d ↔ Structured d ∧ ∀ e ∈ d.transitions, isWeight e.2.effectiveWeight := by
  constructor
  · intro valid
    refine ⟨⟨valid.located, valid.statesDistinct, valid.states, valid.initial,
      valid.transitionsDistinct, ?_⟩, ?_⟩
    · intro e member
      have fits := valid.transitions e member
      exact ⟨fits.source, fits.target, fits.named⟩
    · intro e member
      rw [isWeight_iff_isFinite, e.2.effectiveWeight_eq]
      exact (valid.transitions e member).weight
  · rintro ⟨structured, weights⟩
    refine ⟨structured.located, structured.statesDistinct, structured.states, structured.initial,
      structured.transitionsDistinct, ?_⟩
    intro e member
    obtain ⟨source, target, named⟩ := structured.transitions e member
    have weight := weights e member
    rw [isWeight_iff_isFinite, e.2.effectiveWeight_eq] at weight
    exact ⟨named, source, target, weight⟩

end Definition

namespace Automaton

open Definition

variable {a b : Automaton} {state : String}

theorem rescale_ends (a : Automaton) (state : String) (t : Transition) :
    (a.rescale state t).id = t.id ∧ (a.rescale state t).source = t.source ∧
      (a.rescale state t).target = t.target := by
  unfold rescale
  split_ifs
  · exact withEffectiveWeight_ends t _
  · exact ⟨rfl, rfl, rfl⟩

theorem structured_rescaled (structured : Structured a.toDefinition) :
    Structured (a.rescaled state).toDefinition := by
  refine ⟨structured.located, structured.statesDistinct, structured.states, structured.initial, ?_, ?_⟩
  · show ((a.transitions.entries.map fun e => (e.1, a.rescale state e.2)).map (·.1)).Nodup
    rw [List.map_map]
    exact structured.transitionsDistinct
  · intro e member
    obtain ⟨before, listed, rfl⟩ := List.mem_map.mp member
    obtain ⟨id, source, target⟩ := rescale_ends a state before.2
    rw [id, source, target]
    exact structured.transitions before listed

theorem isWeight_iff {weight : Float} : isWeight weight ↔ isValid weight = true ∧ 0 < weight := by
  simp only [isWeight, isValid, Bool.and_eq_true, decide_eq_true_eq, Bool.not_eq_true',
    decide_eq_false_iff_not]
  constructor
  · rintro ⟨finite, positive⟩
    obtain ⟨amount, _, worth⟩ := Decimal.finite_positive_iff.mp ⟨finite, positive⟩
    exact ⟨⟨finite, worth.not_lt_zero⟩, positive⟩
  · rintro ⟨⟨finite, _⟩, positive⟩
    exact ⟨finite, positive⟩

-- What is kept of validity by normalizing, whatever becomes of the weights.
structure Sound (a : Automaton) : Prop where
  structured : Structured a.toDefinition
  weights : ∀ t ∈ a.transitions.values, isValid t.effectiveWeight = true

theorem Ready.sound (ready : Ready a) : Sound a := by
  induction ready with
  | @loaded d a loaded =>
    have again := valid_of_load (load_toDefinition loaded)
    refine ⟨(valid_iff.mp again).1, ?_⟩
    intro t member
    obtain ⟨key, found⟩ := SortedMap.mem_values.mp member
    have checked := loaded_weight loaded found
    exact (isWeight_iff.mp checked).1
  | @normalized a b ready state normalized ih =>
    obtain ⟨valid, some, rfl⟩ := (normalizeOutgoing_eq_ok ready.wellFormed).mp normalized
    refine ⟨structured_rescaled ih.structured, ?_⟩
    intro t member
    rw [rescaled, SortedMap.values_map] at member
    obtain ⟨before, listed, rfl⟩ := List.mem_map.mp member
    unfold rescale
    split_ifs with leaves
    · rw [before.2.effectiveWeight_withEffectiveWeight]
      refine scale_valid valid some (List.mem_map_of_mem (mem_transitionsFrom.mpr ⟨?_, leaves⟩))
      exact List.mem_map_of_mem listed
    · exact ih.weights _ (List.mem_map_of_mem listed)
  | clean _ ih => exact ⟨ih.structured, ih.weights⟩

theorem loads_iff (sound : Sound a) :
    (∃ c, load a.toDefinition = .ok c) ↔ ∀ t ∈ a.transitions.values, 0 < t.effectiveWeight := by
  rw [load_eq_ok_iff, issues_eq_nil, valid_iff, and_iff_right sound.structured]
  constructor
  · intro weights t member
    obtain ⟨e, listed, rfl⟩ := List.mem_map.mp member
    exact (isWeight_iff.mp (weights e listed)).2
  · intro positive e listed
    have member : e.2 ∈ a.transitions.values := List.mem_map_of_mem listed
    exact isWeight_iff.mpr ⟨sound.weights _ member, positive _ member⟩

theorem Sound.outgoing (sound : Sound a) (state : String) :
    ∀ w ∈ a.outgoingWeights state, isValid w = true := by
  intro w listed
  obtain ⟨u, leaving, rfl⟩ := List.mem_map.mp listed
  exact sound.weights u (mem_transitionsFrom.mp leaving).1

theorem rescale_pos_iff (sound : Sound a) (some : (total (a.outgoingWeights state) == 0) = false)
    {t : Transition} (member : t ∈ a.transitions.values) :
    0 < (a.rescale state t).effectiveWeight ↔ 0 < t.effectiveWeight ∧
      (t.source = state → Survives (a.outgoingWeights state) t.effectiveWeight) := by
  have valid := sound.outgoing state
  unfold rescale
  split_ifs with leaves
  · have listed := List.mem_map_of_mem (f := (·.effectiveWeight))
      (mem_transitionsFrom.mpr ⟨member, leaves⟩)
    rw [t.effectiveWeight_withEffectiveWeight, scale_pos_iff valid some listed]
    simp [leaves]
  · simp [leaves]

theorem values_rescaled :
    (a.rescaled state).transitions.values = a.transitions.values.map (a.rescale state) := by
  rw [rescaled, SortedMap.values_map, SortedMap.values, List.map_map]
  rfl

-- Normalizing keeps an automaton loadable when no weight that leaves the state vanishes.
theorem loads_rescaled (sound : Sound a) (sound' : Sound (a.rescaled state))
    (some : (total (a.outgoingWeights state) == 0) = false) :
    (∃ c, load (a.rescaled state).toDefinition = .ok c) ↔
      (∃ c, load a.toDefinition = .ok c) ∧
        ∀ t ∈ a.transitionsFrom state, Survives (a.outgoingWeights state) t.effectiveWeight := by
  rw [loads_iff sound, loads_iff sound', values_rescaled, List.forall_mem_map]
  constructor
  · intro positive
    have kept := fun t member => (rescale_pos_iff sound some member).mp (positive t member)
    refine ⟨fun t member => (kept t member).1, ?_⟩
    intro t leaving
    obtain ⟨member, leaves⟩ := mem_transitionsFrom.mp leaving
    exact (kept t member).2 leaves
  · rintro ⟨positive, survive⟩ t member
    refine (rescale_pos_iff sound some member).mpr ⟨positive t member, ?_⟩
    intro leaves
    exact survive t (mem_transitionsFrom.mpr ⟨member, leaves⟩)

-- Normalizing fails only where nothing has any weight, and then it changes nothing. Otherwise it changes the
-- weights that count of the transitions that leave the state; the result loads if none of them vanished.
theorem rescaled_exact (ready : Ready a) (state : String) :
    (∀ cause, a.normalizeOutgoing state = .error cause →
      (normalizeInPlace state).run.run a = (.error cause, a) ∧
        cause = .zeroTotal ∧ ∀ t ∈ a.transitionsFrom state, t.effectiveWeight == 0) ∧
      ∀ b, a.normalizeOutgoing state = .ok b →
        (normalizeInPlace state).run.run a = (.ok (), b) ∧
          b = { a with transitions := b.transitions, isDirty := true } ∧
          b.transitions.keys = a.transitions.keys ∧
          (∀ key t, a.transitions.get? key = some t → ∃ u, b.transitions.get? key = some u ∧
            (t.source ≠ state → u = t) ∧ (t.source = state → Reweighed t u ∧
              u.effectiveWeight = scale (a.outgoingWeights state) t.effectiveWeight)) ∧
          ((∃ c, load b.toDefinition = .ok c) ↔ (∃ c, load a.toDefinition = .ok c) ∧
            ∀ t ∈ a.transitionsFrom state, Survives (a.outgoingWeights state) t.effectiveWeight) := by
  have run := normalizeInPlace_run a state
  have sound := ready.sound
  constructor
  · intro cause failed
    rw [failed] at run
    obtain ⟨rfl, nothing⟩ :=
      (normalize_eq_error (sound.outgoing state)).mp (normalizeOutgoing_eq_error.mp failed)
    exact ⟨run, rfl, List.forall_mem_map.mp nothing⟩
  · intro b normalized
    rw [normalized] at run
    have sound' := (Ready.normalized ready normalized).sound
    obtain ⟨valid, some, rfl⟩ := (normalizeOutgoing_eq_ok ready.wellFormed).mp normalized
    refine ⟨run, rfl, ?_, ?_, loads_rescaled sound sound' some⟩
    · simp [rescaled, SortedMap.keys, SortedMap.map, List.map_map, Function.comp_def]
    · intro key t found
      refine ⟨a.rescale state t, ?_, ?_, ?_⟩
      · rw [rescaled, SortedMap.get?_map, found, Option.map_some]
      · exact fun other => if_neg other
      · intro leaves
        rw [rescale, if_pos leaves]
        exact ⟨reweighed t _, t.effectiveWeight_withEffectiveWeight _⟩

-- Two weights whose total is infinite become nothing. What is left does not load, and normalizing it again
-- fails and leaves it as it is.
open Overflowing in
theorem rescaled_exact_overflowing :
    load definition = .ok automaton ∧ ∃ b, automaton.normalizeOutgoing "S" = .ok b ∧
      (normalizeInPlace "S").run.run automaton = (.ok (), b) ∧
      (¬ ∃ c, load b.toDefinition = .ok c) ∧
      (normalizeInPlace "S").run.run b = (.error .zeroTotal, b) := by
  have loaded : load definition = .ok automaton := by decide +kernel
  have ready := Ready.loaded loaded
  have once : automaton.normalizeOutgoing "S" = .ok (automaton.rescaled "S") := by decide +kernel
  have twice : (automaton.rescaled "S").normalizeOutgoing "S" = .error .zeroTotal := by decide +kernel
  obtain ⟨run, _, _, _, loads⟩ := (rescaled_exact ready "S").2 _ once
  refine ⟨loaded, _, once, run, ?_, ((rescaled_exact (.normalized ready once) "S").1 _ twice).1⟩
  rw [loads]
  rintro ⟨_, survive⟩
  have left : (way "left" "L").2 ∈ automaton.transitionsFrom "S" := by decide +kernel
  have far : ¬ (total (automaton.outgoingWeights "S") - 1.0).abs ≤ tolerance := by decide +kernel
  have endless : (total (automaton.outgoingWeights "S")).isFinite = false := by decide +kernel
  obtain close | ⟨finite, _⟩ := survive _ left
  · exact far close
  · exact absurd finite (Bool.eq_false_iff.mp endless)

end Automaton

end Chronomata
