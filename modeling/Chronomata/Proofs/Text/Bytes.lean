import Chronomata.Bytes
import Mathlib.Data.String.Basic
import Mathlib.Tactic.SplitIfs

-- The bytes of a text are read as that text. The order of texts is the order of their bytes: a greater character
-- never has an encoding that comes first, and no encoding begins another one.
namespace Chronomata.Text

theorem toList_loop (bytes : ByteArray) (start : Nat) (taken : List UInt8) :
    ByteArray.toList.loop bytes start taken =
      taken.reverse ++ bytes.data.toList.drop start := by
  fun_induction ByteArray.toList.loop bytes start taken with
  | case1 start taken inside ih =>
    have there : start < bytes.data.toList.length := inside
    have byte : bytes.get! start = bytes.data.toList[start] := by
      show bytes.data[start]! = _
      rw [getElem!_pos bytes.data start inside]
      rfl
    rw [ih, byte, List.reverse_cons, List.append_assoc, List.singleton_append,
      ← List.drop_eq_getElem_cons there]
  | case2 start taken outside =>
    have all : bytes.data.toList.length ≤ start := Nat.not_lt.mp outside
    rw [List.drop_of_length_le all, List.append_nil]

theorem toList_eq_data (bytes : ByteArray) : bytes.toList = bytes.data.toList := by
  rw [ByteArray.toList, toList_loop]
  rfl

theorem ofUtf8?_utf8 (text : String) : ofUtf8? (utf8 text) = some text := by
  have bytes : (⟨(utf8 text).toArray⟩ : ByteArray) = text.toByteArray := by
    rw [utf8, toList_eq_data]
    rfl
  rw [ofUtf8?, bytes, String.fromUTF8?, dif_pos text.isValidUTF8]
  rfl

theorem utf8_injective {first second : String} (same : utf8 first = utf8 second) :
    first = second := by
  have read := congrArg ofUtf8? same
  rw [ofUtf8?_utf8, ofUtf8?_utf8] at read
  exact Option.some.inj read

theorem utf8_length (text : String) : (utf8 text).length = text.utf8ByteSize := by
  rw [utf8, toList_eq_data]
  rfl

def bytes (text : String) : List UInt8 := text.toUTF8.data.toList

theorem bytes_eq_flatMap (text : String) : bytes text = text.toList.flatMap String.utf8EncodeChar := by
  have encoded : text.toByteArray = text.toList.utf8Encode := by
    rw [← String.toByteArray_ofList, String.ofList_toList]
  rw [bytes, String.toUTF8_eq_toByteArray, encoded, List.utf8Encode, List.toList_data_toByteArray]

theorem encoded_lt {c d : Char} (less : c < d) (rest rest' : List UInt8) :
    String.utf8EncodeChar c ++ rest < String.utf8EncodeChar d ++ rest' := by
  have codes : c.val.toNat < d.val.toNat := less
  have top : d.val.toNat < 0x110000 := by
    have valid := d.valid
    rcases valid with low | high
    · exact Nat.lt_trans low (by decide)
    · exact high.2
  -- The bytes carry the digits of the code to the base 64.
  have second : ∀ n : Nat, n / 4096 = n / 64 / 64 := by omega
  have third : ∀ n : Nat, n / 262144 = n / 64 / 64 / 64 := by omega
  unfold String.utf8EncodeChar
  dsimp only
  simp only [second, third]
  generalize c.val.toNat = v at *
  generalize d.val.toNat = w at *
  split_ifs <;>
    simp only [List.cons_append, List.nil_append, List.cons_lt_cons_iff, UInt8.lt_iff_toNat_lt,
      ← UInt8.toNat_inj, UInt8.toNat_ofNat'] <;>
    omega

theorem bytes_lt {s t : String} (less : s < t) : bytes s < bytes t := by
  rw [bytes_eq_flatMap, bytes_eq_flatMap]
  change s.toList < t.toList at less
  generalize s.toList = first at less
  generalize t.toList = second at less
  induction less with
  | nil =>
    rename_i c rest
    obtain ⟨b, others, encoded⟩ := List.exists_cons_of_ne_nil (@String.utf8EncodeChar_ne_nil c)
    rw [List.flatMap_nil, List.flatMap_cons, encoded, List.cons_append]
    exact .nil
  | rel less =>
    rw [List.flatMap_cons, List.flatMap_cons]
    exact encoded_lt less _ _
  | cons _ ih =>
    rw [List.flatMap_cons, List.flatMap_cons]
    exact List.append_left_lt ih

theorem compare_eq_lt {s t : String} : compare s t = .lt ↔ bytes s < bytes t := by
  have ordered : compare s t = .lt ↔ s < t := compareOfLessAndEq_eq_lt
  rw [ordered]
  refine ⟨bytes_lt, ?_⟩
  intro less
  rcases lt_trichotomy s t with before | rfl | after
  · exact before
  · exact absurd less (List.lt_irrefl _)
  · exact absurd (List.lt_trans less (bytes_lt after)) (List.lt_irrefl _)

end Chronomata.Text
