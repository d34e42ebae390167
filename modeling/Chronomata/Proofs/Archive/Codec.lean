import Chronomata.Archive.Codec
import Chronomata.Proofs.Text.Bytes
import Mathlib.Algebra.Group.Nat.Defs

-- Codecs that lose nothing, and what is put together from them.
namespace Chronomata.Codec

variable {α β : Type} {c : Codec α}

theorem takeBytes_length (bytes rest : List UInt8) :
    takeBytes bytes.length (bytes ++ rest) = some (bytes, rest) := by
  rw [takeBytes, if_pos (by simp), List.splitAt_eq, List.take_left, List.drop_left]

theorem number_restores {width value : Nat} (wide : 0 < width) (fits : value < 256 ^ width) :
    (number width).Restores value := by
  have length : ((number width).encode value).length = width :=
    Random.littleEndian_length width value
  refine ⟨by rw [length]; exact wide, ?_⟩
  intro rest _
  have taken := takeBytes_length ((number width).encode value) rest
  rw [length] at taken
  show (takeBytes width _).map _ = _
  rw [taken]
  show some (Random.ofLittleEndian (Random.littleEndian width value), rest) = _
  rw [Random.ofLittleEndian_littleEndian]
  exact congrArg (fun number => some (number, rest)) (Nat.mod_eq_of_lt fits)

theorem Restores.refine {write : β → α} {read : α → Option β} {value : β}
    (restores : c.Restores (write value)) (back : read (write value) = some value) :
    (c.refine write read).Restores value := by
  refine ⟨restores.occupied, ?_⟩
  intro rest short
  have decoded := restores.restored rest short
  show (c.decode (c.encode (write value) ++ rest)).bind _ = _
  rw [decoded, Option.bind_some]
  show (read (write value)).bind _ = _
  rw [back]
  rfl

theorem word64_lossless : word64.Lossless := fun word =>
  (number_restores (by decide) word.toNat_lt).refine (by rw [UInt64.ofNat_toNat])

theorem word32_lossless : word32.Lossless := fun word =>
  (number_restores (by decide) word.toNat_lt).refine (by rw [UInt32.ofNat_toNat])

theorem int64_lossless : int64.Lossless := fun word =>
  (word64_lossless word.toUInt64).refine (by rw [Int64.toInt64_toUInt64])

theorem member_restores [DecidableEq α] {width : Nat} {members : List α} {value : α}
    (wide : 0 < width) (few : members.length ≤ 256 ^ width) (known : value ∈ members) :
    (member width members).Restores value := by
  have index := List.idxOf_lt_length_of_mem known
  have place : members[members.idxOf value]? = some value := by
    rw [List.getElem?_eq_getElem index, List.getElem_idxOf]
  exact @Restores.refine _ _ _ (fun v => members.idxOf v) (fun index => members[index]?) value
    (number_restores wide (Nat.lt_of_lt_of_le index few)) place

theorem bool_lossless : bool.Lossless := fun value =>
  member_restores (by decide) (by decide) (by cases value <;> decide)

theorem Restores.pair {d : Codec β} {value : α × β} (first : c.Restores value.1)
    (second : d.Restores value.2) : (c.pair d).Restores value := by
  have length : ((c.pair d).encode value).length =
      (c.encode value.1).length + (d.encode value.2).length := List.length_append
  refine ⟨?_, ?_⟩
  · rw [length]
    exact Nat.add_pos_left first.occupied _
  · intro rest short
    rw [length] at short
    show (c.decode (c.encode value.1 ++ d.encode value.2 ++ rest)).bind _ = _
    rw [List.append_assoc, first.restored _ (by omega), Option.bind_some]
    show (d.decode (d.encode value.2 ++ rest)).bind _ = _
    rw [second.restored rest (by omega), Option.bind_some]

theorem Lossless.pair {d : Codec β} (first : c.Lossless) (second : d.Lossless) :
    (c.pair d).Lossless :=
  fun value => (first value.1).pair (second value.2)

theorem Lossless.refine {write : β → α} {read : α → Option β} (lossless : c.Lossless)
    (back : ∀ value, read (write value) = some value) : (c.refine write read).Lossless :=
  fun value => (lossless (write value)).refine (back value)

-- A value behind a mark that says how to go on.
theorem Restores.behind {γ : Type} {d : Codec β} {marks : Codec γ} {mark : γ} {inner : β}
    {build : β → α} (marked : marks.Restores mark) (restores : d.Restores inner)
    (written : c.encode (build inner) = marks.encode mark ++ d.encode inner)
    (read : ∀ {bytes rest}, marks.decode bytes = some (mark, rest) →
      c.decode bytes = (d.decode rest).map fun (value, rest) => (build value, rest)) :
    c.Restores (build inner) := by
  have length : (c.encode (build inner)).length =
      (marks.encode mark).length + (d.encode inner).length := by
    rw [written, List.length_append]
  refine ⟨?_, ?_⟩
  · rw [length]
    exact Nat.add_pos_left marked.occupied _
  · intro rest short
    rw [length] at short
    have start := marked.restored (d.encode inner ++ rest) (by omega)
    rw [written, List.append_assoc, read start, restores.restored rest (by omega)]
    rfl

theorem Lossless.optional (lossless : c.Lossless) : (Codec.optional c).Lossless := by
  intro value
  cases value with
  | none =>
    refine ⟨(bool_lossless false).occupied, ?_⟩
    intro rest short
    show (bool.decode (bool.encode false ++ rest)).bind _ = _
    rw [(bool_lossless false).restored rest short]
    rfl
  | some value =>
    refine (bool_lossless true).behind (lossless value) rfl ?_
    intro bytes rest decoded
    show (bool.decode bytes).bind _ = _
    rw [decoded]
    rfl

theorem blob_lossless : blob.Lossless := by
  intro bytes
  have length : (blob.encode bytes).length =
      ((number 8).encode bytes.length).length + bytes.length := List.length_append
  have positive : 0 < ((number 8).encode bytes.length).length := by
    rw [show ((number 8).encode bytes.length).length = 8 from Random.littleEndian_length _ _]
    decide
  refine ⟨by rw [length]; omega, ?_⟩
  intro rest short
  rw [length] at short
  have announced : (number 8).Restores bytes.length :=
    number_restores (by decide) (Nat.lt_of_le_of_lt (Nat.le_add_left _ _) short)
  simp only [blob, List.append_assoc]
  rw [announced.restored _ (by omega)]
  exact takeBytes_length bytes rest

theorem text_lossless : text.Lossless := blob_lossless.refine Text.ofUtf8?_utf8

theorem length_le_flatMap (lossless : c.Lossless) (values : List α) :
    values.length ≤ (values.flatMap c.encode).length := by
  induction values with
  | nil => exact Nat.le_refl 0
  | cons value values ih =>
    have occupied := (lossless value).occupied
    simp only [List.flatMap_cons, List.length_append, List.length_cons]
    omega

theorem repeated_flatMap (lossless : c.Lossless) (values : List α) (rest : List UInt8)
    (short : (values.flatMap c.encode).length < UInt64.size) :
    repeated c values.length (values.flatMap c.encode ++ rest) = some (values, rest) := by
  induction values with
  | nil => rfl
  | cons value values ih =>
    simp only [List.flatMap_cons, List.length_append] at short
    have head := (lossless value).restored (values.flatMap c.encode ++ rest) (by omega)
    simp only [List.length_cons, List.flatMap_cons, List.append_assoc, repeated, head,
      ih (by omega), Option.bind_eq_bind, Option.bind_some]

theorem Lossless.list (lossless : c.Lossless) : (Codec.list c).Lossless := by
  intro values
  have length : ((Codec.list c).encode values).length =
      ((number 8).encode values.length).length + (values.flatMap c.encode).length :=
    List.length_append
  have eight : ((number 8).encode values.length).length = 8 := Random.littleEndian_length _ _
  have many := length_le_flatMap lossless values
  refine ⟨by rw [length, eight]; omega, ?_⟩
  intro rest short
  rw [length] at short
  have counted : (number 8).Restores values.length :=
    number_restores (by decide) (Nat.lt_of_le_of_lt (by omega) short)
  have enough : announced values.length (values.flatMap c.encode ++ rest) =
      some values.length := by
    rw [announced, if_pos (by simp only [List.length_append]; omega)]
  simp only [Codec.list, List.append_assoc]
  rw [counted.restored _ (by omega)]
  simp only [Option.bind_eq_bind, Option.bind_some, enough]
  exact repeated_flatMap lossless values rest (by omega)

end Chronomata.Codec
