import Chronomata.Proofs.Json.Floats
import Chronomata.Proofs.Json.Records
import Chronomata.Json.Basic

-- Records that leave fields out, and values that have no number for some of their floats: what is written
-- is read back exactly when all of it could be written.
namespace Chronomata

open Sink Source

-- A value is read from its document when it fits, and nothing is read when it does not.
structure FaithfulIf {α : Type} (fits : α → Bool) (write : α → Json) (read : Json → Option α) :
    Prop where
  readable : ∀ value, Json.Readable (write value)
  reads : ∀ value, read (write value) = if fits value then some value else none

variable {α : Type} {write : α → Json} {read : Json → Option α} {fits : α → Bool}

theorem FaithfulIf.float : FaithfulIf Float.isFinite Json.float float? :=
  ⟨Json.Readable.float, Json.float?_float⟩

theorem mapM_eq_guard {β γ : Type} {fits : β → Bool} {f : β → γ} {g : γ → Option β}
    (back : ∀ b, g (f b) = if fits b then some b else none) (values : List β) :
    (values.map f).mapM g = if values.all fits then some values else none := by
  induction values with
  | nil => rfl
  | cons value values ih =>
    rw [List.map_cons, List.mapM_cons, back, ih, List.all_cons]
    cases fits value <;> cases values.all fits <;> rfl

-- Entries keep their order and their repetitions.
theorem FaithfulIf.entries (faithful : FaithfulIf fits write read) :
    FaithfulIf (fun entries => entries.all fun e => fits e.2)
      (fun entries => Json.record (entries.map fun e => (e.1, write e.2))) (map? read) := by
  refine ⟨?_, ?_⟩
  · intro entries
    refine .record ?_
    intro member listed
    obtain ⟨e, _, rfl⟩ := List.mem_map.mp listed
    exact faithful.readable e.2
  · intro entries
    apply mapM_eq_guard
    intro e
    rw [faithful.reads]
    cases fits e.2 <;> rfl

section Lookups

variable {ν : Type} (key name : String) (node : ν) (written : α → ν) (value : Option α)

@[simp] theorem lookup_field :
    List.lookup name (field key node) = if name = key then some node else none := by
  by_cases same : name = key
  · simp [field, same]
  · simp [field, List.lookup_cons, beq_eq_false_iff_ne.mpr same, same]

@[simp] theorem lookup_fieldIf :
    List.lookup name (fieldIf key written value) = if name = key then value.map written else none := by
  cases value with
  | none => simp [fieldIf]
  | some value => exact lookup_field key name (written value)

end Lookups

-- Members that are written under given names, in order, though not under each.
structure Written (names : List String) (members : List (String × Json)) : Prop where
  named : (members.map (·.1)).Sublist names
  readable : ∀ member ∈ members, Json.Readable member.2

section Written

variable {names names' : List String} {members members' : List (String × Json)} {key : String}
  {node : Json}

theorem Written.append (first : Written names members) (second : Written names' members') :
    Written (names ++ names') (members ++ members') := by
  refine ⟨?_, List.forall_mem_append.mpr ⟨first.readable, second.readable⟩⟩
  rw [List.map_append]
  exact first.named.append second.named

theorem written_field (readable : Json.Readable node) : Written [key] (field key node) :=
  ⟨List.Sublist.refl _, List.forall_mem_singleton.mpr readable⟩

theorem written_fieldIf (readable : ∀ value, Json.Readable (write value)) (value : Option α) :
    Written [key] (fieldIf key write value) := by
  cases value with
  | none => exact ⟨List.nil_sublist _, List.forall_mem_nil _⟩
  | some value => exact written_field (readable value)

theorem Written.field (before : Written names members) (readable : Json.Readable node) :
    Written (names ++ [key]) (members ++ field key node) :=
  before.append (written_field readable)

theorem Written.fieldIf (before : Written names members)
    (readable : ∀ value, Json.Readable (write value)) {value : Option α} :
    Written (names ++ [key]) (members ++ fieldIf key write value) :=
  before.append (written_fieldIf readable value)

theorem Written.fields?_eq (distinct : names.Nodup) (written : Written names members) :
    fields? names (Json.record members) = some members :=
  if_pos ((written.named.nodup distinct).filter _)

end Written

-- A record whose fields, as far as they are written, are read back.
theorem FaithfulIf.record {names : List String} {members : α → List (String × Json)}
    {build : Fields Json → Option α} (distinct : names.Nodup)
    (written : ∀ value, Written names (members value))
    (built : ∀ value, build (members value) = if fits value then some value else none) :
    FaithfulIf fits (fun value => Json.record (members value))
      fun node => (fields? names node).bind build := by
  refine ⟨fun value => .record (written value).readable, ?_⟩
  intro value
  rw [(written value).fields?_eq distinct, Option.bind_some, built]

section

variable {ν β : Type} {fields : Fields ν} {name : String} {take : ν → Option β} {missing : β}

theorem Source.Fields.get?_eq : fields.get? name take = (fields.lookup name).bind take := rfl

theorem Source.Fields.getD?_eq :
    fields.getD? name missing take = (fields.lookup name).elim (some missing) take := by
  rw [Fields.getD?]
  cases fields.lookup name <;> rfl

end

-- A field that may be left out is read as what it was written for.
theorem FaithfulIf.optional (faithful : FaithfulIf fits write read)
    (present : ∀ value, absent? (write value) = some false) (value : Option α) :
    value.elim (some none) (Source.optional? read ∘ write) =
      if value.all fits then some value else none := by
  cases value with
  | none => rfl
  | some value =>
    simp only [Option.elim_some, Function.comp_apply, Source.optional?, present, Option.bind_eq_bind,
      Option.bind_some, faithful.reads, Option.all_some]
    by_cases fit : fits value <;> simp [fit]

end Chronomata
