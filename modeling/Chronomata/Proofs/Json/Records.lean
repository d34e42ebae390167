import Chronomata.Proofs.Json.Writing
import Chronomata.Source

-- Typed values in object notation: a value and its document say the same when the document can be written
-- as text and the value is read from it again. Options, lists and records of such values are of this kind too.
namespace Chronomata

open Source

structure Faithful {α : Type} (write : α → Json) (read : Json → Option α) : Prop where
  readable : ∀ value, Json.Readable (write value)
  reads : ∀ value, read (write value) = some value

variable {α : Type} {write : α → Json} {read : Json → Option α}

theorem mapM_eq_some {β γ : Type} {f : β → γ} {g : γ → Option β} (back : ∀ b, g (f b) = some b)
    (values : List β) : (values.map f).mapM g = some values := by
  induction values with
  | nil => rfl
  | cons value values ih => simp [back, ih]

theorem Faithful.text : Faithful Json.text text? :=
  ⟨Json.Readable.text, fun _ => rfl⟩

theorem Faithful.bool : Faithful Json.bool bool? :=
  ⟨Json.Readable.bool, fun _ => rfl⟩

theorem integer?_natural (value : Nat) : integer? (Json.natural value) = some (value : Int) := by
  show (Json.literal? (toString value)).bind (·.toInt?) = _
  rw [(Json.numeral_repr value).literal?]
  rfl

theorem bounded?_natural {value most : Nat} (fits : value ≤ most) :
    bounded? 0 (most : Int) (Json.natural value) = some (value : Int) := by
  simp only [bounded?, integer?_natural, Option.bind_eq_bind, Option.bind_some]
  rw [if_pos (by omega)]

theorem Faithful.word64 : Faithful (fun word : UInt64 => Json.natural word.toNat) word64? := by
  refine ⟨fun word => .natural word.toNat, ?_⟩
  intro word
  have fits : word.toNat ≤ UInt64.size - 1 := Nat.le_sub_one_of_lt word.toNat_lt
  have read := bounded?_natural fits
  rw [word64?]
  show (bounded? 0 ((UInt64.size - 1 : Nat) : Int) _).map _ = _
  rw [read]
  exact congrArg some (UInt64.ofNat_toNat)

theorem Faithful.int64 : Faithful (fun word : Int64 => Json.integer word.toInt) int64? := by
  refine ⟨fun word => .integer word.toInt, ?_⟩
  intro word
  have read : integer? (Json.integer word.toInt) = some word.toInt := Json.literal?_integer word.toInt
  have fits : Int64.minValue.toInt ≤ word.toInt ∧ word.toInt ≤ Int64.maxValue.toInt :=
    ⟨Int64.minValue_le_toInt word, Int64.toInt_le word⟩
  simp only [int64?, bounded?, read, Option.bind_eq_bind, Option.bind_some, if_pos fits,
    Option.map_some, Int64.ofInt_toInt]

theorem Faithful.optional (faithful : Faithful write read)
    (present : ∀ value, absent? (write value) = some false) :
    Faithful (Json.optional write) (optional? read) := by
  refine ⟨?_, ?_⟩
  · intro value
    cases value with
    | none => exact .null
    | some value => exact faithful.readable value
  · intro value
    cases value with
    | none => rfl
    | some value =>
      simp only [optional?, Json.optional, present, Option.bind_eq_bind, Option.bind_some,
        faithful.reads]
      rfl

theorem Faithful.list (faithful : Faithful write read) :
    Faithful (fun values => Json.list (values.map write)) (list? read) := by
  refine ⟨?_, ?_⟩
  · intro values
    refine .list ?_
    intro item member
    obtain ⟨value, _, rfl⟩ := List.mem_map.mp member
    exact faithful.readable value
  · intro values
    exact mapM_eq_some faithful.reads values

theorem allFields?_record {names : List String} {members : List (String × Json)}
    (distinct : names.Nodup) (same : members.map (·.1) = names) :
    allFields? names (Json.record members) = some members := by
  show (if _ then some members else none) = some members
  rw [same]
  exact if_pos (distinct.filter _)

-- A record whose fields, as they are written, are read back.
theorem Faithful.record {names : List String} {members : α → List (String × Json)}
    {build : Fields Json → Option α} (distinct : names.Nodup)
    (same : ∀ value, (members value).map (·.1) = names)
    (readable : ∀ value, ∀ member ∈ members value, Json.Readable member.2)
    (built : ∀ value, build (members value) = some value) :
    Faithful (fun value => Json.record (members value))
      fun node => (allFields? names node).bind build := by
  refine ⟨fun value => .record (readable value), ?_⟩
  intro value
  show (allFields? names (Json.record (members value))).bind build = some value
  rw [allFields?_record distinct (same value)]
  exact built value

namespace Source.Fields

variable {ν : Type} {name key : String} {node : ν} {fields : Fields ν} {take : ν → Option α}

@[simp] theorem get?_here : Fields.get? ((name, node) :: fields) name take = take node := by
  simp [Fields.get?]

@[simp] theorem get?_later (other : name ≠ key) :
    Fields.get? ((key, node) :: fields) name take = Fields.get? fields name take := by
  simp only [Fields.get?, List.lookup_cons, beq_eq_false_iff_ne.mpr other]

variable [Source ν]

@[simp] theorem optional?_here :
    Fields.optional? ((name, node) :: fields) name take = Source.optional? take node := by
  simp [Fields.optional?, Fields.getD?]

@[simp] theorem optional?_later (other : name ≠ key) :
    Fields.optional? ((key, node) :: fields) name take = Fields.optional? fields name take := by
  simp only [Fields.optional?, Fields.getD?, List.lookup_cons, beq_eq_false_iff_ne.mpr other]

end Source.Fields

end Chronomata
