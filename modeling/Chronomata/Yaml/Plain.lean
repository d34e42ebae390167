import Chronomata.Decimal.Basic
import Chronomata.Text.Basic

-- What a plain scalar means: nothing, a truth value, an integer, a float, or else just its text.
namespace Chronomata.Yaml.Plain

def isNull (text : String) : Bool := ["null", "Null", "NULL", "~"].contains text

def bool? (text : String) : Option Bool :=
  if ["true", "True", "TRUE"].contains text then some true
  else if ["false", "False", "FALSE"].contains text then some false
  else none

def isSign (c : Char) : Bool := c = '+' || c = '-'

def dropPlus : List Char → Option (List Char)
  | '+' :: rest => if rest.head?.any isSign then none else some rest
  | cs => some cs

def dropMinus : List Char → Bool × List Char
  | '-' :: rest => (true, rest)
  | cs => (false, cs)

-- Digits of a number that is written with zeros in front of it, which makes it no number.
def isPadded (text : List Char) : Bool :=
  let digits := if text.head?.any isSign then text.drop 1 else text
  1 < digits.length && digits.head? == some '0' && digits.all Char.isDigit

-- A number in a base up to sixteen; at least one digit.
def digits? (base : Nat) (digits : List Char) : Option Nat :=
  if digits.isEmpty then none
  else digits.foldlM (fun value c => do
    let digit ← Text.hexValue? c
    if digit < base then some (base * value + digit) else none) 0

def announced? : List Char → Option Nat
  | '0' :: 'x' :: digits => digits? 16 digits
  | '0' :: 'o' :: digits => digits? 8 digits
  | '0' :: 'b' :: digits => digits? 2 digits
  | _ => none

def size? (digits : List Char) : Option Nat := (announced? digits).or (digits? 10 digits)

def integer? (text : String) : Option Int :=
  if isPadded text.toList then none
  else do
    let (negative, digits) := dropMinus (← dropPlus text.toList)
    let size ← size? digits
    some (if negative then -size else size)

-- A finite float: digits with or without a point, on either side of it, and an exponent.
def finite? (text : List Char) : Option Float := do
  let (negative, rest) := dropMinus text
  let (whole, rest) := Decimal.spanDigits rest
  let (fraction, rest) := match rest with
    | '.' :: rest => Decimal.spanDigits rest
    | rest => ([], rest)
  let (exponent, rest) ← Decimal.readExponent rest
  if (whole.isEmpty ∧ fraction.isEmpty) ∨ ¬ rest.isEmpty then none
  else Decimal.Literal.toFloat? ⟨negative, Decimal.digitsValue (whole ++ fraction),
    exponent.getD 0 - fraction.length, false⟩

def float? (text : String) : Option Float := do
  let unsigned := String.ofList (← dropPlus text.toList)
  if [".inf", ".Inf", ".INF"].contains unsigned then some (1.0 / 0.0)
  else if ["-.inf", "-.Inf", "-.INF"].contains text then some (-1.0 / 0.0)
  else if [".nan", ".NaN", ".NAN"].contains text then some (0.0 / 0.0)
  else finite? unsigned.toList

def fitsWord (i : Int) : Bool :=
  if i < 0 then i.natAbs ≤ 1 <<< 127 else i.natAbs < 1 <<< 128

-- Whether a plain scalar of this text would mean anything but its text, or be taken for something
-- else by some reader.
def isAmbiguous (text : String) : Bool :=
  text.isEmpty || isNull text || (bool? text).isSome || (integer? text).any fitsWord
    || (float? text).isSome || isPadded text.toList

end Chronomata.Yaml.Plain
