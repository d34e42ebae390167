-- Floats as exact numbers, and numbers written in decimal. Everything that writes or rounds a float works in
-- exact integer arithmetic on a sign, a mantissa and a power of two.
namespace Chronomata.Decimal

structure Binary where
  negative : Bool
  mantissa : Nat
  exponent : Int
  deriving DecidableEq, Repr

namespace Binary

def fractionBits : Nat := 52

def leastExponent : Int := -1074

end Binary

-- The exact value of a float that is finite; infinities and NaN have none.
def binary? (x : Float) : Option Binary :=
  let bits := x.toBits.toNat
  let negative := bits / Nat.pow 2 63 == 1
  let field : Nat := bits / Nat.pow 2 Binary.fractionBits % Nat.pow 2 11
  let fraction := bits % Nat.pow 2 Binary.fractionBits
  if field = Nat.pow 2 11 - 1 then none
  else if field = 0 then some ⟨negative, fraction, Binary.leastExponent⟩
  else some ⟨negative, Nat.pow 2 Binary.fractionBits + fraction, Binary.leastExponent + Int.ofNat (field - 1)⟩

inductive Tie where
  | even
  | away
  deriving DecidableEq, Repr

def roundQuotient (tie : Tie) (numerator denominator : Nat) : Nat :=
  let low := numerator / denominator
  let twice := 2 * (numerator % denominator)
  if twice < denominator then low
  else if denominator < twice then low + 1
  else match tie with
    | .even => if low % 2 = 0 then low else low + 1
    | .away => low + 1

-- The result is within half a unit of the quotient, whichever way ties go.
theorem roundQuotient_near (tie : Tie) (numerator : Nat) {denominator : Nat}
    (positive : 0 < denominator) :
    2 * numerator ≤ (2 * roundQuotient tie numerator denominator + 1) * denominator ∧
      2 * roundQuotient tie numerator denominator * denominator ≤ 2 * numerator + denominator := by
  have split := Nat.div_add_mod numerator denominator
  have bound := Nat.mod_lt numerator positive
  have low : roundQuotient tie numerator denominator = numerator / denominator ∧
        2 * (numerator % denominator) ≤ denominator ∨
      roundQuotient tie numerator denominator = numerator / denominator + 1 ∧
        denominator ≤ 2 * (numerator % denominator) := by
    unfold roundQuotient
    cases tie <;> grind
  generalize roundQuotient tie numerator denominator = r at low
  generalize numerator / denominator = q at split low
  generalize numerator % denominator = m at split bound low
  rcases low with ⟨rfl, small⟩ | ⟨rfl, large⟩
  · constructor <;> grind
  · constructor <;> grind

-- A decimal number as written: its sign, its digits read as one integer, and the power of ten by
-- which they count.
structure Literal where
  negative : Bool
  digits : Nat
  exponent : Int
  whole : Bool
  deriving DecidableEq, Repr

def spanDigits (cs : List Char) : List Char × List Char := cs.span Char.isDigit

def digitsValue (digits : List Char) : Nat :=
  digits.foldl (fun value c => 10 * value + (c.toNat - '0'.toNat)) 0

def readMinus : List Char → Bool × List Char
  | '-' :: rest => (true, rest)
  | cs => (false, cs)

def readSign : List Char → Bool × List Char
  | '-' :: rest => (true, rest)
  | '+' :: rest => (false, rest)
  | cs => (false, cs)

-- An exponent part, when one follows; none when its digits are missing.
def readExponent : List Char → Option (Option Int × List Char)
  | c :: rest =>
    if c = 'e' ∨ c = 'E' then
      let (negative, rest) := readSign rest
      let (digits, rest) := spanDigits rest
      if digits.isEmpty then none
      else
        let size : Int := digitsValue digits
        some (some (if negative then -size else size), rest)
    else some (none, c :: rest)
  | [] => some (none, [])

-- The float nearest to a decimal, ties to even; none when it is too large for any.
def Literal.toFloat? (l : Literal) : Option Float :=
  let size := Float.ofScientific l.digits (l.exponent < 0) l.exponent.natAbs
  if size.isInf then none else some (if l.negative then -size else size)

-- The integer of a literal that is written as one. A signed zero is no integer.
def Literal.toInt? (l : Literal) : Option Int :=
  if ¬ l.whole then none
  else if l.negative then (if l.digits = 0 then none else some (-(l.digits : Int)))
  else some l.digits

end Chronomata.Decimal
