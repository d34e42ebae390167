import Chronomata.Proofs.Text.Digits
import Chronomata.Time.Timestamp

-- Instants read back from their text. Every part is read up to where the next one begins: parts of a fixed
-- width by their width, the rest by the first character that is no digit.
namespace Chronomata.Timestamp

open Decimal

theorem isDigit_padded (width value : Nat) : ∀ c ∈ padded width value, c.isDigit = true := by
  intro c member
  rcases List.mem_append.mp member with zero | digit
  · rw [(List.mem_replicate.mp zero).2]
    rfl
  · exact isDigit_toDigits c digit

theorem digitsValue_padded (width value : Nat) : digitsValue (padded width value) = value :=
  (digitsValue_zeros _ _).trans (digitsValue_toDigits value)

theorem padded_length {width value : Nat} (wide : 0 < width) (fits : value < 10 ^ width) :
    (padded width value).length = width := by
  have short := (Nat.length_toDigits_le_iff (by decide : 1 < 10) wide).mpr fits
  simp only [padded, List.length_append, List.length_replicate]
  omega

theorem padded_ne_nil (width value : Nat) : padded width value ≠ [] := by
  intro empty
  exact Nat.toDigits_ne_nil (List.append_eq_nil_iff.mp empty).2

theorem exists_padded (width value : Nat) :
    ∃ c tail, padded width value = c :: tail ∧ c.isDigit = true := by
  obtain ⟨c, tail, digits⟩ := List.exists_cons_of_ne_nil (padded_ne_nil width value)
  exact ⟨c, tail, digits, isDigit_padded width value c (digits ▸ List.mem_cons_self)⟩

theorem isBlank_of_isDigit {c : Char} (digit : c.isDigit = true) : Text.isBlank c = false := by
  have range : 48 ≤ c.toNat ∧ c.toNat ≤ 57 := by
    simpa [Char.isDigit, UInt32.le_iff_toNat_le] using digit
  simp only [Text.isBlank, Bool.or_eq_false_iff, Bool.and_eq_false_iff, decide_eq_false_iff_not,
    beq_eq_false_iff_ne]
  omega

theorem trimLeft_cons {c : Char} (solid : Text.isBlank c = false) (cs : List Char) :
    Text.trimLeft (c :: cs) = c :: cs := by
  rw [Text.trimLeft, List.dropWhile_cons_of_neg (by rw [solid]; decide)]

theorem trimLeft_padded (width value : Nat) (rest : List Char) :
    Text.trimLeft (padded width value ++ rest) = padded width value ++ rest := by
  obtain ⟨c, tail, digits, digit⟩ := exists_padded width value
  rw [digits, List.cons_append, trimLeft_cons (isBlank_of_isDigit digit)]

theorem readNumber_padded {width value : Nat} (wide : 0 < width) (fits : value < 10 ^ width)
    (rest : List Char) : readNumber width (padded width value ++ rest) = some (value, rest) := by
  have length := padded_length wide fits
  have taken : (padded width value ++ rest).take width = padded width value := by
    rw [List.take_append_of_le_length (Nat.le_of_eq length.symm), List.take_of_length_le
      (Nat.le_of_eq length)]
  have digits : (padded width value).takeWhile Char.isDigit = padded width value := by
    simpa using takeWhile_run (isDigit_padded width value) Stops.nil
  have some : (padded width value).isEmpty = false :=
    List.isEmpty_eq_false_iff.mpr (padded_ne_nil width value)
  simp only [readNumber, trimLeft_padded, taken, digits, some, Bool.false_eq_true, if_false,
    digitsValue_padded, List.drop_left]

theorem readBounded_padded {least most value : Nat} (above : least ≤ value) (below : value ≤ most)
    (fits : value < 100) (rest : List Char) :
    readBounded least most (padded 2 value ++ rest) = some (value, rest) := by
  simp only [readBounded, readNumber_padded (by decide : 0 < 2) fits, Option.bind_eq_bind,
    Option.bind_some, if_pos (And.intro above below)]

theorem readMark_self {mark : Char} (solid : Text.isBlank mark = false) (rest : List Char) :
    readMark mark (mark :: rest) = some rest := by
  simp only [readMark, trimLeft_cons solid, if_true]

theorem signed_padded (sign : Int) (value : Nat) {rest : List Char}
    (stops : Stops Char.isDigit rest) :
    readYear.signed sign (padded 4 value ++ rest) = some (sign * value, rest) := by
  rw [readYear.signed, spanDigits_run (isDigit_padded 4 value) stops]
  obtain ⟨c, tail, digits, _⟩ := exists_padded 4 value
  have read := digitsValue_padded 4 value
  rw [digits] at read ⊢
  simp only [read]

theorem readYear_writeYear (year : Int) {rest : List Char} (stops : Stops Char.isDigit rest) :
    readYear (writeYear year ++ rest) = some (year, rest) := by
  unfold writeYear
  split_ifs with short negative
  · obtain ⟨c, tail, digits, digit⟩ := exists_padded 4 year.toNat
    have read := readNumber_padded (show 0 < 4 by decide) (show year.toNat < 10 ^ 4 by omega) rest
    have start := trimLeft_padded 4 year.toNat rest
    rw [digits, List.cons_append] at read start ⊢
    rw [readYear, start]
    split
    · rename_i same
      cases same
      cases digit
    · rename_i same
      cases same
      cases digit
    · rw [read]
      exact congrArg some (Prod.ext (Int.toNat_of_nonneg short.1) rfl)
  · rw [List.cons_append, readYear, trimLeft_cons (by decide)]
    refine (signed_padded (-1) year.natAbs stops).trans ?_
    exact congrArg some (Prod.ext (by show -1 * (year.natAbs : Int) = year; omega) rfl)
  · rw [List.cons_append, readYear, trimLeft_cons (by decide)]
    refine (signed_padded 1 year.natAbs stops).trans ?_
    exact congrArg some (Prod.ext (by show 1 * (year.natAbs : Int) = year; omega) rfl)

-- A fraction with fewer than nine digits counts as if zeros followed.
theorem readFraction_padded {width value : Nat} (wide : 0 < width) (narrow : width ≤ 9)
    (fits : value < 10 ^ width) {rest : List Char} (stops : Stops Char.isDigit rest) :
    readFraction ('.' :: padded width value ++ rest) =
      some (value * Nat.pow 10 (9 - width), rest) := by
  have length := padded_length wide fits
  have counted : (padded width value).take 9 = padded width value :=
    List.take_of_length_le (by omega)
  have some : (padded width value).isEmpty = false :=
    List.isEmpty_eq_false_iff.mpr (padded_ne_nil width value)
  simp only [List.cons_append, readFraction, spanDigits_run (isDigit_padded width value) stops,
    counted, some, Bool.false_eq_true, if_false, digitsValue_padded, length]

theorem readFraction_writeFraction {nanosecond : Nat} (bounded : nanosecond < 1000000000)
    (rest : List Char) :
    readFraction (writeFraction nanosecond ++ 'Z' :: rest) = some (nanosecond, 'Z' :: rest) := by
  have stops : Stops Char.isDigit ('Z' :: rest) := .cons (by decide)
  unfold writeFraction
  split_ifs with zero milli micro
  · rw [zero]
    rfl
  · rw [readFraction_padded (by decide) (by decide) (by omega) stops]
    exact congrArg some (Prod.ext (by show nanosecond / 1000000 * 1000000 = _; omega) rfl)
  · rw [readFraction_padded (by decide) (by decide) (by omega) stops]
    exact congrArg some (Prod.ext (by show nanosecond / 1000 * 1000 = _; omega) rfl)
  · rw [readFraction_padded (by decide) (by decide) (by omega) stops]
    exact congrArg some (Prod.ext (Nat.mul_one nanosecond) rfl)

-- On a clock that shows universal time, a local time is the instant itself.
theorem ofLocal?_universal (i : Instant) :
    Instant.ofLocal? i.date i.hour i.minute i.second i.nanosecond 0 = some i := by
  obtain ⟨date, hour, minute, second, nanosecond, hour_bounded, minute_bounded, second_bounded,
    nanosecond_bounded⟩ := i
  have early : ¬ (60 * (hour : Int) + minute - 0 < 0) := by omega
  have late : ¬ (1440 ≤ 60 * (hour : Int) + minute - 0) := by omega
  have whole : ((60 * (hour : Int) + minute - 0) % 1440 / 60).toNat = hour := by omega
  have part : ((60 * (hour : Int) + minute - 0) % 1440 % 60).toNat = minute := by omega
  simp only [Instant.ofLocal?, if_neg early, if_neg late, Option.bind_eq_bind, Option.bind_some,
    dif_pos (And.intro second_bounded nanosecond_bounded), whole, part]

theorem day_le (date : Date) : date.day ≤ 31 := by
  have bounded := date.day_bounded.2
  unfold daysInMonth at bounded
  split_ifs at bounded <;> omega

theorem readChars_writeChars (i : Instant) : readChars (writeChars i) = some i := by
  have year : ∀ rest, readYear (writeYear i.date.year ++ '-' :: rest) =
      some (i.date.year, '-' :: rest) :=
    fun rest => readYear_writeYear i.date.year (.cons (by decide))
  have monthBounds := i.date.month_bounded
  have month : ∀ rest, readBounded 1 12 (padded 2 i.date.month ++ rest) =
      some (i.date.month, rest) :=
    readBounded_padded monthBounds.1 monthBounds.2 (by omega)
  have dayBound := day_le i.date
  have day : ∀ rest, readBounded 1 31 (padded 2 i.date.day ++ rest) = some (i.date.day, rest) :=
    readBounded_padded i.date.day_bounded.1 dayBound (by omega)
  have hourBound := i.hour_bounded
  have hour : ∀ rest, readBounded 0 23 (padded 2 i.hour ++ rest) = some (i.hour, rest) :=
    readBounded_padded (Nat.zero_le _) (by omega) (by omega)
  have minuteBound := i.minute_bounded
  have minute : ∀ rest, readBounded 0 59 (padded 2 i.minute ++ rest) = some (i.minute, rest) :=
    readBounded_padded (Nat.zero_le _) (by omega) (by omega)
  have secondBound := i.second_bounded
  have second : ∀ rest, readBounded 0 60 (padded 2 i.second ++ rest) = some (i.second, rest) :=
    readBounded_padded (Nat.zero_le _) secondBound (by omega)
  have dash : ∀ rest, readMark '-' ('-' :: rest) = some rest := readMark_self (by decide)
  have colon : ∀ rest, readMark ':' (':' :: rest) = some rest := readMark_self (by decide)
  have separator : ∀ rest, readSeparator ('T' :: rest) = some rest := fun _ => rfl
  have fraction := readFraction_writeFraction i.nanosecond_bounded []
  have offset : readOffset ['Z'] = some (0, []) := by decide
  have laid : writeChars i = writeYear i.date.year ++ '-' :: (padded 2 i.date.month ++ '-' ::
      (padded 2 i.date.day ++ 'T' :: (padded 2 i.hour ++ ':' :: (padded 2 i.minute ++ ':' ::
      (padded 2 i.second ++ (writeFraction i.nanosecond ++ ['Z'])))))) := by
    simp only [writeChars, List.append_assoc, List.cons_append]
  rw [laid]
  refine Option.bind_eq_some_iff.mpr ⟨_, year _, ?_⟩
  refine Option.bind_eq_some_iff.mpr ⟨_, dash _, Option.bind_eq_some_iff.mpr ⟨_, month _, ?_⟩⟩
  refine Option.bind_eq_some_iff.mpr ⟨_, dash _, Option.bind_eq_some_iff.mpr ⟨_, day _, ?_⟩⟩
  refine Option.bind_eq_some_iff.mpr ⟨_, separator _, Option.bind_eq_some_iff.mpr ⟨_, hour _, ?_⟩⟩
  refine Option.bind_eq_some_iff.mpr ⟨_, colon _, Option.bind_eq_some_iff.mpr ⟨_, minute _, ?_⟩⟩
  refine Option.bind_eq_some_iff.mpr ⟨_, colon _, Option.bind_eq_some_iff.mpr ⟨_, second _, ?_⟩⟩
  refine Option.bind_eq_some_iff.mpr ⟨_, fraction, Option.bind_eq_some_iff.mpr ⟨_, offset, ?_⟩⟩
  refine Option.bind_eq_some_iff.mpr ⟨_, Date.of?_self i.date, ?_⟩
  exact ofLocal?_universal i

theorem read?_write (i : Instant) : read? (write i) = some i := by
  rw [read?, write, String.toList_ofList, readChars_writeChars]

end Chronomata.Timestamp
