import Chronomata.Decimal.Basic

-- Floats as decimal text: the fewest digits that still name this float and no other, and of those the nearest
-- to its exact value, laid out by a style.
namespace Chronomata.Decimal

structure Digits where
  digits : Nat
  exponent : Int
  deriving DecidableEq, Repr

def scaled (base value : Nat) (exponent : Int) : Nat × Nat :=
  if 0 ≤ exponent then (value * base.pow exponent.toNat, 1) else (value, base.pow (-exponent).toNat)

namespace Binary

-- The interval of numbers that round to a positive value, in units of a quarter of its last place:
-- lower end, value and upper end. Below a power of two the neighbour is only half as far.
def quarters (b : Binary) : Nat × Nat × Nat :=
  let low := if b.mantissa = Nat.pow 2 fractionBits ∧ leastExponent < b.exponent then 1 else 2
  (4 * b.mantissa - low, 4 * b.mantissa, 4 * b.mantissa + 2)

def isNamedBy (b : Binary) (place : Int) (digits : Nat) : Bool :=
  let (unitTop, unitBottom) := scaled 2 1 (b.exponent - 2)
  let (top, bottom) := scaled 10 digits place
  let (low, _, high) := b.quarters
  let candidate := top * unitBottom
  let lower := low * unitTop * bottom
  let upper := high * unitTop * bottom
  if b.mantissa % 2 = 0 then lower ≤ candidate ∧ candidate ≤ upper
  else lower < candidate ∧ candidate < upper

def overPlace (b : Binary) (place : Int) : Nat × Nat :=
  let (top, bottom) := scaled 2 b.mantissa b.exponent
  let (unitTop, unitBottom) := scaled 10 1 place
  (top * unitBottom, bottom * unitTop)

-- Of the two neighbours of the value on the grid of `10 ^ place`, the nearer one that names it, or
-- the other one if only that does.
def nearestOn (tie : Tie) (b : Binary) (place : Int) : Option Nat :=
  let (top, bottom) := b.overPlace place
  let nearest := roundQuotient tie top bottom
  let floor := top / bottom
  let other := if nearest = floor then floor + 1 else floor
  if b.isNamedBy place nearest then some nearest
  else if b.isNamedBy place other then some other
  else none

-- The position of the decimal point after the first digit's place: the least `p` such that the
-- value is below `10 ^ p`. It is found by stepping from an estimate, which is off by two at most.
def point (b : Binary) : Int :=
  let log2 : Int := b.exponent + b.mantissa.log2
  let estimate : Int := log2 * 30103 / 100000 - 1
  let below (p : Int) : Bool :=
    let (top, bottom) := b.overPlace p
    top < bottom
  ((List.range 5).map fun i => estimate + Int.ofNat i).find? below |>.getD (estimate + 5)

end Binary

-- Move trailing zeros from the digits to the exponent. The fuel is the number of digits.
def Digits.strip : Nat → Digits → Digits
  | 0, d => d
  | fuel + 1, d =>
    if d.digits ≠ 0 ∧ d.digits % 10 = 0 then Digits.strip fuel ⟨d.digits / 10, d.exponent + 1⟩ else d

def mostDigits : Nat := 17

-- The shortest decimal of a finite value, without trailing zeros; zero is the digit zero.
def shortest (tie : Tie) (b : Binary) : Digits :=
  if b.mantissa = 0 then ⟨0, 0⟩
  else
    let point := b.point
    let named := (List.range mostDigits).findSome? fun n =>
      let place := point - (Int.ofNat n + 1)
      (b.nearestOn tie place).map fun digits => Digits.strip (mostDigits + 1) ⟨digits, place⟩
    named.getD ⟨b.mantissa, 0⟩

structure Style where
  tie : Tie
  keepsFraction : Bool
  -- The positions of the point, counted from before the first digit, that are written without an
  -- exponent; `none` writes every number without one.
  positional : Option (Int × Int)
  signsExponent : Bool
  notANumber : String
  infinity : String
  negativeInfinity : String

def Style.message : Style := ⟨.away, false, none, false, "NaN", "inf", "-inf"⟩

-- Documents in object notation: an exponent from the seventeenth digit and below the fifth decimal
-- place; what is not finite has no number and is written as nothing.
def Style.document : Style := ⟨.even, true, some (-4, 16), true, "null", "null", "null"⟩

-- Documents in outline notation: numbers as in object notation, but for the sign of an exponent
-- that is not negative, and names for the rest.
def Style.outline : Style := ⟨.even, true, some (-4, 16), false, ".nan", ".inf", "-.inf"⟩

def Digits.positional (style : Style) (d : Digits) : List Char :=
  let digits := Nat.toDigits 10 d.digits
  if 0 ≤ d.exponent then
    digits ++ List.replicate d.exponent.toNat '0'
      ++ (if style.keepsFraction then ['.', '0'] else [])
  else
    let places := (-d.exponent).toNat
    if places < digits.length then
      digits.take (digits.length - places) ++ '.' :: digits.drop (digits.length - places)
    else '0' :: '.' :: List.replicate (places - digits.length) '0' ++ digits

def Digits.scientific (style : Style) (d : Digits) : List Char :=
  let digits := Nat.toDigits 10 d.digits
  let exponent : Int := d.exponent + Int.ofNat digits.length - 1
  let fraction := digits.drop 1
  digits.take 1 ++ (if fraction.isEmpty then [] else '.' :: fraction)
    ++ 'e' :: (if style.signsExponent && 0 ≤ exponent then ['+'] else []) ++ (toString exponent).toList

def Digits.text (style : Style) (d : Digits) : List Char :=
  match style.positional with
  | none => d.positional style
  | some (least, most) =>
    let point : Int := d.exponent + Int.ofNat (Nat.toDigits 10 d.digits).length
    if d.digits = 0 ∨ (least ≤ point ∧ point ≤ most) then d.positional style else d.scientific style

def text (style : Style) (x : Float) : String :=
  match binary? x with
  | some b =>
    String.ofList ((if b.negative then ['-'] else []) ++ (shortest style.tie b).text style)
  | none =>
    if x.isNaN then style.notANumber
    else if x < 0 then style.negativeInfinity else style.infinity

end Chronomata.Decimal
