import Chronomata.Proofs.Decimal.Shortest
import Chronomata.Proofs.Json.Writing
import Chronomata.Source

-- Floats in object notation: a finite float is written as a number and read from it as the same float.
namespace Chronomata

open Decimal

namespace Decimal

theorem digitsValue_append_zeros (digits : List Char) (count : Nat) :
    digitsValue (digits ++ List.replicate count '0') = digitsValue digits * 10 ^ count := by
  show Nat.ofDigitChars 10 _ 0 = Nat.ofDigitChars 10 _ 0 * _
  rw [Nat.ofDigitChars_append, Nat.ofDigitChars_replicate_zero, Nat.mul_comm]

end Decimal

namespace Json

open Decimal

-- A text of digits: a number that says as much as they do, and no sign.
def Shows (d : Digits) (written : List Char) : Prop :=
  ∀ negative, ∃ literal : Literal, Numeral (sign negative ++ written) literal ∧
    literal.negative = negative ∧ literal.value = d.value

theorem shows_of_parts {d : Digits} {whole fraction cs ds : List Char} {exponent : Option Int}
    (whole' : Whole whole) (fraction' : Fraction cs fraction) (power' : Power ds exponent)
    (same : digitsValue (whole ++ fraction) * (10 : ℚ) ^ (exponent.getD 0 - fraction.length) = d.value) :
    Shows d (whole ++ (cs ++ ds)) :=
  fun negative => ⟨_, numeral_parts negative whole' fraction' power', rfl, same⟩

theorem whole_zeros {value count : Nat} (plain : value = 0 → count = 0) :
    Whole (Nat.toDigits 10 value ++ List.replicate count '0') := by
  refine ⟨?_, ?_⟩
  · intro c member
    rcases List.mem_append.mp member with digit | zero
    · exact isDigit_toDigits c digit
    · rw [List.eq_of_mem_replicate zero]
      rfl
  · rcases toDigits_head value with only | ⟨c, tail, digits, other⟩
    · have zero := digitsValue_toDigits value
      rw [only] at zero
      rw [only, plain zero.symm]
      exact .inl rfl
    · rw [digits]
      exact .inr ⟨c, _, rfl, other⟩

theorem whole_take {value count : Nat} (some : 0 < count) :
    Whole ((Nat.toDigits 10 value).take count) := by
  refine ⟨fun c member => isDigit_toDigits c (List.mem_of_mem_take member), ?_⟩
  obtain ⟨count, rfl⟩ := Nat.exists_eq_add_one.mpr some
  rcases toDigits_head value with only | ⟨c, tail, digits, other⟩
  · rw [only]
    exact .inl (by rw [List.take_succ_cons, List.take_nil])
  · rw [digits]
    exact .inr ⟨c, _, List.take_succ_cons, other⟩

theorem fraction_drop {value count : Nat} (some : count < (Nat.toDigits 10 value).length) :
    Fraction ('.' :: (Nat.toDigits 10 value).drop count) ((Nat.toDigits 10 value).drop count) :=
  .present (List.ne_nil_of_length_pos (by rw [List.length_drop]; omega))
    fun c member => isDigit_toDigits c (List.mem_of_mem_drop member)

-- The point stands behind all of the digits, between two of them, or in front of them all.
theorem whole_shows {value places : Nat} (plain : value = 0 → places = 0) :
    Shows ⟨value, places⟩ (Nat.toDigits 10 value ++ List.replicate places '0' ++ ['.', '0']) := by
  have zero : Fraction ['.', '0'] ['0'] := by
    apply Fraction.present (List.cons_ne_nil _ _)
    intro c member
    rw [List.mem_singleton.mp member]
    rfl
  refine shows_of_parts (whole_zeros plain) zero .absent ?_
  rw [List.append_assoc, ← List.replicate_succ', digitsValue_append_zeros, digitsValue_toDigits,
    Digits.value, Nat.cast_mul, Nat.cast_pow, Nat.cast_ofNat, ← zpow_natCast, mul_assoc,
    ← zpow_add₀ (by norm_num)]
  congr 2
  simp

theorem inside_shows {value before places : Nat} (some : 0 < before) (more : 0 < places)
    (split : before + places = (Nat.toDigits 10 value).length) :
    Shows ⟨value, -places⟩
      ((Nat.toDigits 10 value).take before ++ '.' :: (Nat.toDigits 10 value).drop before) := by
  have behind := fraction_drop (show before < (Nat.toDigits 10 value).length by omega)
  have length : ((Nat.toDigits 10 value).drop before).length = places := by
    rw [List.length_drop]
    omega
  have shown : Shows ⟨value, -places⟩ _ := shows_of_parts (whole_take some) behind .absent (by
    rw [List.take_append_drop, digitsValue_toDigits, length]
    simp [Digits.value])
  simpa using shown

theorem outside_shows {value places count : Nat}
    (gap : places = count + (Nat.toDigits 10 value).length) :
    Shows ⟨value, -places⟩ ('0' :: '.' :: List.replicate count '0' ++ Nat.toDigits 10 value) := by
  have whole : Whole ['0'] := whole_toDigits 0
  have behind : Fraction ('.' :: (List.replicate count '0' ++ Nat.toDigits 10 value))
      (List.replicate count '0' ++ Nat.toDigits 10 value) := by
    apply Fraction.present (by simp [Nat.toDigits_ne_nil])
    intro c member
    rcases List.mem_append.mp member with zero | digit
    · rw [List.eq_of_mem_replicate zero]
      rfl
    · exact isDigit_toDigits c digit
  have zeros : ['0'] ++ (List.replicate count '0' ++ Nat.toDigits 10 value) =
    List.replicate (count + 1) '0' ++ Nat.toDigits 10 value := rfl
  have shown : Shows ⟨value, -places⟩ _ := shows_of_parts whole behind .absent (by
    rw [zeros, digitsValue_zeros, digitsValue_toDigits, List.length_append, List.length_replicate, gap]
    simp [Digits.value])
  simpa using shown

theorem positional_shows {d : Digits} (plain : d.digits = 0 → d.exponent = 0) :
    Shows d (d.positional .document) := by
  obtain ⟨value, exponent⟩ := d
  unfold Digits.positional
  dsimp only at plain ⊢
  split
  · rename_i whole
    obtain ⟨places, rfl⟩ := Int.eq_ofNat_of_zero_le whole
    exact whole_shows fun none => Int.natCast_eq_zero.mp (plain none)
  · rename_i fraction
    obtain ⟨places, rfl⟩ : ∃ places : Nat, exponent = -places := ⟨exponent.natAbs, by omega⟩
    rw [Int.neg_neg, Int.toNat_natCast]
    split
    · exact inside_shows (by omega) (by omega) (by omega)
    · exact outside_shows (by omega)

theorem scientific_shows (d : Digits) : Shows d (d.scientific .document) := by
  obtain ⟨value, exponent⟩ := d
  obtain ⟨length, count⟩ : ∃ length, length = (Nat.toDigits 10 value).length := ⟨_, rfl⟩
  have nonempty : 0 < length := count ▸ List.length_pos_of_ne_nil Nat.toDigits_ne_nil
  obtain ⟨power, point⟩ : ∃ power, power = exponent + Int.ofNat length - 1 := ⟨_, rfl⟩
  have whole : Whole ((Nat.toDigits 10 value).take 1) := whole_take Nat.one_pos
  have behind : Fraction (if ((Nat.toDigits 10 value).drop 1).isEmpty then []
      else '.' :: (Nat.toDigits 10 value).drop 1) ((Nat.toDigits 10 value).drop 1) := by
    split
    · rename_i empty
      rw [List.isEmpty_iff.mp empty]
      exact .absent
    · rename_i more
      apply fraction_drop
      by_contra few
      exact more (List.isEmpty_iff.mpr (List.drop_eq_nil_of_le (by omega)))
  have shown : Shows ⟨value, exponent⟩ _ := shows_of_parts whole behind (.present power) (by
    have place : (some power).getD 0 - ((length - 1 : Nat) : Int) = exponent := by
      rw [Option.getD_some, point, Int.ofNat_eq_natCast]
      omega
    rw [List.take_append_drop, digitsValue_toDigits, List.length_drop, ← count, place]
    rfl)
  unfold Digits.scientific
  dsimp only
  rw [← count, ← point]
  simpa [Style.document] using shown

theorem text_shows {d : Digits} (plain : d.digits = 0 → d.exponent = 0) :
    Shows d (d.text .document) := by
  unfold Digits.text
  dsimp only [Style.document]
  split
  · exact positional_shows plain
  · exact scientific_shows d

theorem float_shows {x : Float} {b : Binary} (exact : binary? x = some b) :
    ∃ literal, Numeral (Decimal.text .document x).toList literal ∧ literal.toFloat? = some x := by
  have formed := binary?_formed exact
  obtain ⟨literal, numeral, negative, value⟩ := text_shows (shortest_plain formed .even) b.negative
  refine ⟨literal, ?_, ?_⟩
  · rw [Decimal.text, exact]
    dsimp only
    rwa [String.toList_ofList]
  · exact Literal.toFloat?_eq exact negative (value ▸ shortest_says formed .even)

theorem Readable.float (x : Float) : Readable (.float x) := by
  unfold Json.float
  split
  · rename_i finite
    rw [isFinite_eq, Option.isSome_iff_exists] at finite
    obtain ⟨b, exact⟩ := finite
    obtain ⟨literal, numeral, _⟩ := float_shows exact
    exact .number numeral
  · exact .null

-- A finite float is read as it was written; what is not finite is written as something else.
theorem float?_float (x : Float) :
    Source.float? (Json.float x) = if x.isFinite then some x else none := by
  unfold Json.float
  split
  · rename_i finite
    rw [isFinite_eq, Option.isSome_iff_exists] at finite
    obtain ⟨b, exact⟩ := finite
    obtain ⟨literal, numeral, read⟩ := float_shows exact
    show (literal? (Decimal.text .document x)).bind (·.toFloat?) = some x
    rw [numeral.literal?, Option.bind_some, read]
  · rfl

end Json

end Chronomata
