import Chronomata.Decimal.Basic
import Chronomata.Text.Basic
import Mathlib.Data.List.TakeDrop
import Mathlib.Tactic.IntervalCases

-- Digits read back: what numbers are written with, decimal and hexadecimal, gives them again.
namespace Chronomata

section Runs

variable {keep : Char → Bool} {run rest : List Char}

-- What may follow a run: nothing, or a character that does not belong to it.
def Stops (keep : Char → Bool) (rest : List Char) : Prop := ∀ c ∈ rest.head?, keep c = false

theorem Stops.nil : Stops keep [] := by
  rintro c ⟨⟩

theorem Stops.cons {c : Char} (other : keep c = false) : Stops keep (c :: rest) := by
  rintro d ⟨⟩
  exact other

theorem takeWhile_run (inside : ∀ c ∈ run, keep c = true) (stops : Stops keep rest) :
    (run ++ rest).takeWhile keep = run := by
  rw [List.takeWhile_append_of_pos inside]
  cases rest with
  | nil => simp
  | cons c rest => simp [stops c rfl]

theorem dropWhile_run (inside : ∀ c ∈ run, keep c = true) (stops : Stops keep rest) :
    (run ++ rest).dropWhile keep = rest := by
  rw [List.dropWhile_append_of_pos inside]
  cases rest with
  | nil => rfl
  | cons c rest => simp [stops c rfl]

end Runs

namespace Decimal

theorem spanDigits_run {digits rest : List Char} (inside : ∀ c ∈ digits, c.isDigit = true)
    (stops : Stops Char.isDigit rest) : spanDigits (digits ++ rest) = (digits, rest) := by
  rw [spanDigits, List.span_eq_takeWhile_dropWhile, takeWhile_run inside stops,
    dropWhile_run inside stops]

theorem isDigit_toDigits {value : Nat} : ∀ c ∈ Nat.toDigits 10 value, c.isDigit = true :=
  fun _ member => Nat.isDigit_of_mem_toDigits (by decide) (by decide) member

theorem digitsValue_toDigits (value : Nat) : digitsValue (Nat.toDigits 10 value) = value :=
  Nat.ofDigitChars_ten_toDigits

-- Zeros in front of a number change nothing.
theorem digitsValue_zeros (count : Nat) (digits : List Char) :
    digitsValue (List.replicate count '0' ++ digits) = digitsValue digits := by
  show Nat.ofDigitChars 10 _ 0 = Nat.ofDigitChars 10 _ 0
  rw [Nat.ofDigitChars_append, Nat.ofDigitChars_replicate_zero, Nat.mul_zero]

end Decimal

namespace Text

theorem hexValue?_digitChar {digit : Nat} (small : digit < 16) :
    hexValue? digit.digitChar = some digit := by
  interval_cases digit <;> decide

theorem hexNat?_append (first second : List Char) :
    hexNat? (first ++ second) = (hexNat? first).bind fun value =>
      second.foldlM (fun value c => (hexValue? c).map (16 * value + ·)) value :=
  List.foldlM_append

theorem hexNat?_toDigits (value : Nat) : hexNat? (Nat.toDigits 16 value) = some value := by
  induction value using Nat.strong_induction_on with
  | _ value ih =>
    rw [Nat.toDigits_eq_if (by decide)]
    split
    · rename_i small
      simp [hexNat?, hexValue?_digitChar small]
    · rename_i large
      rw [hexNat?_append, ih (value / 16) (by omega)]
      have last := hexValue?_digitChar (Nat.mod_lt value (by decide : 0 < 16))
      simp only [Option.bind_some, List.foldlM_cons, List.foldlM_nil, last, Option.map_some]
      exact congrArg some (Nat.div_add_mod value 16)

theorem hexNat?_zeros (count : Nat) (digits : List Char) :
    hexNat? (List.replicate count '0' ++ digits) = hexNat? digits := by
  have zeros : hexNat? (List.replicate count '0') = some 0 := by
    induction count with
    | zero => rfl
    | succ count ih => exact ih
  rw [hexNat?_append, zeros]
  rfl

theorem hexNat?_hexNat (width value : Nat) : hexNat? (hexNat width value) = some value :=
  (hexNat?_zeros _ _).trans (hexNat?_toDigits value)

theorem hexNat_length {width value : Nat} (wide : 0 < width) (fits : value < 16 ^ width) :
    (hexNat width value).length = width := by
  have short := (Nat.length_toDigits_le_iff (by decide : 1 < 16) wide).mpr fits
  simp only [hexNat, List.length_append, List.length_replicate]
  omega

end Text

end Chronomata
