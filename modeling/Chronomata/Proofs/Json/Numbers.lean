import Chronomata.Proofs.Json.Layout

-- Numbers as they are written: a sign, a whole part, a fraction and a power of ten. Whatever is made of such
-- parts is read as the number that they say.
namespace Chronomata.Json

theorem isNumeric_of_isDigit {c : Char} (digit : c.isDigit = true) : isNumeric c = true := by
  simp [isNumeric, digit]

theorem stops_digits {rest : List Char} (stops : Stops isNumeric rest) : Stops Char.isDigit rest := by
  intro c first
  refine Bool.eq_false_iff.mpr ?_
  intro digit
  cases (isNumeric_of_isDigit digit).symm.trans (stops c first)

def sign (negative : Bool) : List Char := if negative then ['-'] else []

-- The digits in front of the point: no zero in front of others.
structure Whole (digits : List Char) : Prop where
  digit : ∀ c ∈ digits, c.isDigit = true
  plain : digits = ['0'] ∨ ∃ c tail, digits = c :: tail ∧ c ≠ '0'

-- The digits behind the point, with the point that is written for them.
inductive Fraction : List Char → List Char → Prop where
  | absent : Fraction [] []
  | present {digits : List Char} (some : digits ≠ []) (digit : ∀ c ∈ digits, c.isDigit = true) :
      Fraction ('.' :: digits) digits

inductive Power : List Char → Option Int → Prop where
  | absent : Power [] none
  | present (exponent : Int) :
      Power ('e' :: (if 0 ≤ exponent then ['+'] else []) ++ (toString exponent).toList) (some exponent)

variable {whole fraction cs ds rest : List Char} {exponent : Option Int}

theorem Whole.nonempty (form : Whole whole) : whole ≠ [] := by
  rcases form.plain with rfl | ⟨c, tail, rfl, _⟩
  · exact List.cons_ne_nil _ _
  · exact List.cons_ne_nil _ _

theorem readMinus_sign (negative : Bool) (form : Whole whole) (rest : List Char) :
    Decimal.readMinus (sign negative ++ (whole ++ rest)) = (negative, whole ++ rest) := by
  cases negative with
  | true => rfl
  | false =>
    obtain ⟨c, tail, rfl⟩ := List.exists_cons_of_ne_nil form.nonempty
    have other : c ≠ '-' := by
      rintro rfl
      cases form.digit '-' List.mem_cons_self
    exact Decimal.readMinus.eq_2 _ (by simp [sign, other])

theorem readWhole_run (form : Whole whole) (stops : Stops Char.isDigit rest) :
    readWhole (whole ++ rest) = some (whole, rest) := by
  rw [readWhole, Decimal.spanDigits_run form.digit stops]
  rcases form.plain with rfl | ⟨c, tail, rfl, other⟩
  · rfl
  · split
    · rename_i same
      cases same
    · rename_i same
      cases same
      exact absurd rfl other
    · rename_i same
      cases same
      rfl

theorem readFraction_run (form : Fraction cs fraction) (stops : Stops Char.isDigit rest)
    (noPoint : ∀ tail, rest ≠ '.' :: tail) : readFraction (cs ++ rest) = some (fraction, rest) := by
  cases form with
  | absent => exact readFraction.eq_2 _ noPoint
  | present some digit =>
    rw [List.cons_append, readFraction, Decimal.spanDigits_run digit stops]
    split
    · rename_i same
      cases same
      exact absurd rfl some
    · rename_i same
      cases same
      rfl

theorem isNumeric_int {value : Int} : ∀ c ∈ (toString value).toList, isNumeric c = true := by
  intro c member
  cases value with
  | ofNat value =>
    rw [show toString (Int.ofNat value) = toString value from rfl, Nat.toString_eq_repr,
      Nat.toList_repr] at member
    exact isNumeric_of_isDigit (Decimal.isDigit_toDigits c member)
  | negSucc value =>
    rw [show toString (Int.negSucc value) = "-" ++ toString (value + 1) from rfl,
      Nat.toString_eq_repr, String.toList_append, Nat.toList_repr] at member
    rcases List.mem_append.mp member with minus | digit
    · rw [List.mem_singleton.mp minus]
      rfl
    · exact isNumeric_of_isDigit (Decimal.isDigit_toDigits c digit)

theorem Fraction.numeric (form : Fraction cs fraction) : ∀ c ∈ cs, isNumeric c = true := by
  intro c member
  cases form with
  | absent => cases member
  | present some digit =>
    rcases List.mem_cons.mp member with rfl | behind
    · rfl
    · exact isNumeric_of_isDigit (digit c behind)

theorem Power.numeric (form : Power ds exponent) : ∀ c ∈ ds, isNumeric c = true := by
  intro c member
  cases form with
  | absent => cases member
  | present value =>
    rcases List.mem_append.mp member with mark | digits
    · rcases List.mem_cons.mp mark with rfl | plus
      · rfl
      · split at plus
        · rw [List.mem_singleton.mp plus]
          rfl
        · cases plus
    · exact isNumeric_int c digits

-- The sign in front of a power is always written.
theorem readSign_int (value : Int) (rest : List Char) :
    Decimal.readSign ((if 0 ≤ value then ['+'] else []) ++ (toString value).toList ++ rest) =
      (decide (value < 0), Nat.toDigits 10 value.natAbs ++ rest) := by
  cases value with
  | ofNat value =>
    rw [show toString (Int.ofNat value) = toString value from rfl, Nat.toString_eq_repr,
      Nat.toList_repr, if_pos (show 0 ≤ Int.ofNat value from Int.natCast_nonneg value),
      decide_eq_false (show ¬ Int.ofNat value < 0 from Int.not_lt.mpr (Int.natCast_nonneg value))]
    rfl
  | negSucc value =>
    rw [show toString (Int.negSucc value) = "-" ++ toString (value + 1) from rfl,
      Nat.toString_eq_repr, String.toList_append, Nat.toList_repr, if_neg (by omega),
      decide_eq_true (by omega)]
    rfl

theorem readExponent_run (form : Power ds exponent) (stops : Stops isNumeric rest) :
    Decimal.readExponent (ds ++ rest) = some (exponent, rest) := by
  cases form with
  | absent =>
    cases rest with
    | nil => rfl
    | cons c rest =>
      have other : ¬ (c = 'e' ∨ c = 'E') := by
        rintro (rfl | rfl) <;> cases stops _ rfl
      rw [List.nil_append, Decimal.readExponent, if_neg other]
  | present value =>
    have digits : Decimal.spanDigits (Nat.toDigits 10 value.natAbs ++ rest) = (_, rest) :=
      Decimal.spanDigits_run Decimal.isDigit_toDigits (stops_digits stops)
    have some : (Nat.toDigits 10 value.natAbs).isEmpty = false := by
      rw [List.isEmpty_eq_false_iff]
      exact Nat.toDigits_ne_nil
    have size : (if decide (value < 0) = true then -(value.natAbs : Int) else value.natAbs) = value := by
      rcases Int.lt_or_le value 0 with below | above
      · rw [decide_eq_true below, if_pos rfl]
        omega
      · rw [decide_eq_false (Int.not_lt.mpr above), if_neg (by decide)]
        omega
    simp only [List.cons_append, Decimal.readExponent, true_or, if_true, readSign_int, digits, some,
      Decimal.digitsValue_toDigits, Bool.false_eq_true, if_false, size]

theorem Power.stops (form : Power ds exponent) (stops : Stops isNumeric rest) :
    Stops Char.isDigit (ds ++ rest) ∧ ∀ tail, ds ++ rest ≠ '.' :: tail := by
  cases form with
  | absent =>
    refine ⟨stops_digits stops, ?_⟩
    rintro tail rfl
    cases stops '.' rfl
  | present value =>
    refine ⟨.cons rfl, ?_⟩
    rintro tail ⟨⟩

theorem Fraction.stops (form : Fraction cs fraction) (stops : Stops Char.isDigit rest) :
    Stops Char.isDigit (cs ++ rest) := by
  cases form with
  | absent => exact stops
  | present some digit => exact .cons rfl

-- The number that is written with its parts.
def literalOf (negative : Bool) (whole fraction : List Char) (exponent : Option Int) :
    Decimal.Literal :=
  ⟨negative, Decimal.digitsValue (whole ++ fraction), exponent.getD 0 - fraction.length,
    fraction.isEmpty && exponent.isNone⟩

theorem numeral_parts (negative : Bool) (whole' : Whole whole) (fraction' : Fraction cs fraction)
    (power' : Power ds exponent) :
    Numeral (sign negative ++ (whole ++ (cs ++ ds))) (literalOf negative whole fraction exponent) where
  nonempty := by
    simp [whole'.nonempty]
  numeric c member := by
    simp only [List.mem_append] at member
    rcases member with minus | digit | digit | power
    · cases negative with
      | true =>
        rw [List.mem_singleton.mp minus]
        rfl
      | false => cases minus
    · exact isNumeric_of_isDigit (whole'.digit c digit)
    · exact fraction'.numeric c digit
    · exact power'.numeric c power
  reads stops := by
    have afterWhole := fraction'.stops (power'.stops stops).1
    simp only [readNumber, List.append_assoc, readMinus_sign negative whole',
      readWhole_run whole' afterWhole, Option.bind_eq_bind, Option.bind_some,
      readFraction_run fraction' (power'.stops stops).1 (power'.stops stops).2,
      readExponent_run power' stops]
    rfl

theorem Numeral.literal? {written : String} {literal : Decimal.Literal}
    (numeral : Numeral written.toList literal) : literal? written = some literal := by
  have read := numeral.reads .nil
  rw [List.append_nil] at read
  rw [Json.literal?, read]

-- Only zero is written with a zero in front.
theorem toDigits_head (value : Nat) :
    Nat.toDigits 10 value = ['0'] ∨ ∃ c tail, Nat.toDigits 10 value = c :: tail ∧ c ≠ '0' := by
  induction value using Nat.strong_induction_on with
  | _ value ih =>
    rw [Nat.toDigits_eq_if (by decide)]
    split
    · by_cases zero : value = 0
      · exact .inl (by rw [zero]; rfl)
      · exact .inr ⟨_, _, rfl, by simpa using zero⟩
    · rename_i large
      rcases ih (value / 10) (by omega) with only | ⟨c, tail, digits, other⟩
      · have zero := Decimal.digitsValue_toDigits (value / 10)
        rw [only] at zero
        have positive : 0 < value / 10 := by omega
        rw [← zero] at positive
        exact absurd positive (by decide)
      · exact .inr ⟨c, _, by rw [digits]; rfl, other⟩

theorem whole_toDigits (value : Nat) : Whole (Nat.toDigits 10 value) :=
  ⟨Decimal.isDigit_toDigits, toDigits_head value⟩

theorem numeral_toDigits (negative : Bool) (value : Nat) :
    Numeral (sign negative ++ Nat.toDigits 10 value) ⟨negative, value, 0, true⟩ := by
  have numeral := numeral_parts negative (whole_toDigits value) .absent .absent
  rwa [List.append_nil, List.append_nil, literalOf, List.append_nil,
    Decimal.digitsValue_toDigits] at numeral

theorem numeral_repr (value : Nat) : Numeral (toString value).toList ⟨false, value, 0, true⟩ := by
  rw [Nat.toString_eq_repr, Nat.toList_repr]
  exact numeral_toDigits false value

theorem numeral_minus_repr (value : Nat) :
    Numeral ("-" ++ toString value).toList ⟨true, value, 0, true⟩ := by
  rw [Nat.toString_eq_repr, String.toList_append, Nat.toList_repr]
  exact numeral_toDigits true value

theorem literal?_integer (value : Int) :
    (literal? (toString value)).bind (·.toInt?) = some value := by
  cases value with
  | ofNat value =>
    rw [show toString (Int.ofNat value) = toString value from rfl, (numeral_repr value).literal?]
    rfl
  | negSucc value =>
    rw [show toString (Int.negSucc value) = "-" ++ toString (value + 1) from rfl,
      (numeral_minus_repr (value + 1)).literal?]
    rfl

end Chronomata.Json
