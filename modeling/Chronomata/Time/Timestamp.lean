import Chronomata.Decimal.Basic
import Chronomata.Text.Basic
import Chronomata.Time.Instant

-- Instants as text. They are written in universal time, with as many groups of three fraction digits
-- as they need. They are read with any offset, and with blanks between their parts.
namespace Chronomata.Timestamp

def padded (width value : Nat) : List Char :=
  let digits := Nat.toDigits 10 value
  List.replicate (width - digits.length) '0' ++ digits

-- A year. What does not fit four digits carries a sign.
def writeYear (year : Int) : List Char :=
  if 0 ≤ year ∧ year ≤ 9999 then padded 4 year.toNat
  else (if year < 0 then '-' else '+') :: padded 4 year.natAbs

-- The fraction of a second in milliseconds, microseconds or nanoseconds, or not at all.
def writeFraction (nanosecond : Nat) : List Char :=
  if nanosecond = 0 then []
  else if nanosecond % 1000000 = 0 then '.' :: padded 3 (nanosecond / 1000000)
  else if nanosecond % 1000 = 0 then '.' :: padded 6 (nanosecond / 1000)
  else '.' :: padded 9 nanosecond

def writeChars (i : Instant) : List Char :=
  writeYear i.date.year ++ '-' :: padded 2 i.date.month ++ '-' :: padded 2 i.date.day
    ++ 'T' :: padded 2 i.hour ++ ':' :: padded 2 i.minute ++ ':' :: padded 2 i.second
    ++ writeFraction i.nanosecond ++ ['Z']

def write (i : Instant) : String := String.ofList (writeChars i)

def readNumber (width : Nat) (cs : List Char) : Option (Nat × List Char) :=
  let cs := Text.trimLeft cs
  let digits := (cs.take width).takeWhile Char.isDigit
  if digits.isEmpty then none
  else some (Decimal.digitsValue digits, cs.drop digits.length)

def readBounded (least most : Nat) (cs : List Char) : Option (Nat × List Char) := do
  let (value, rest) ← readNumber 2 cs
  if least ≤ value ∧ value ≤ most then some (value, rest) else none

def readYear (cs : List Char) : Option (Int × List Char) :=
  match Text.trimLeft cs with
  | '-' :: rest => signed (-1) rest
  | '+' :: rest => signed 1 rest
  | cs => (readNumber 4 cs).map fun (value, rest) => (Int.ofNat value, rest)
where
  signed (sign : Int) (cs : List Char) : Option (Int × List Char) :=
    match Decimal.spanDigits cs with
    | ([], _) => none
    | (digits, rest) => some (sign * Decimal.digitsValue digits, rest)

def readMark (mark : Char) (cs : List Char) : Option (List Char) :=
  match Text.trimLeft cs with
  | c :: rest => if c = mark then some rest else none
  | [] => none

-- The fraction of a second. Digits behind the ninth are skipped.
def readFraction : List Char → Option (Nat × List Char)
  | '.' :: cs =>
    let (digits, rest) := Decimal.spanDigits cs
    let counted := digits.take 9
    if digits.isEmpty then none
    else some (Decimal.digitsValue counted * Nat.pow 10 (9 - counted.length), rest)
  | cs => some (0, cs)

def readPair (most : Char) : List Char → Option (Nat × List Char)
  | a :: b :: rest =>
    if a.isDigit ∧ a ≤ most ∧ b.isDigit then some (Decimal.digitsValue [a, b], rest) else none
  | _ => none

def isOffsetMark (c : Char) : Bool := c = ':' || Text.isBlank c

def offsetSign? (c : Char) : Option Int :=
  if c = '+' then some 1 else if c = '-' ∨ c = '\u2212' then some (-1) else none

def readSignedOffset : List Char → Option (Int × List Char)
  | c :: rest => do
    let sign ← offsetSign? c
    let (hours, rest) ← readPair '9' rest
    let (minutes, rest) ← readPair '5' (rest.dropWhile isOffsetMark)
    let offset := 60 * hours + minutes
    if offset < 1440 then some (sign * offset, rest) else none
  | [] => none

def isUniversal (a b c : Char) : Bool := a.toUpper = 'U' && b.toUpper = 'T' && c.toUpper = 'C'

def readOffset (cs : List Char) : Option (Int × List Char) :=
  match Text.trimLeft cs with
  | 'Z' :: rest | 'z' :: rest => some (0, rest)
  | a :: b :: c :: rest =>
    if isUniversal a b c then some (0, rest) else readSignedOffset (a :: b :: c :: rest)
  | cs => readSignedOffset cs

def readSeparator : List Char → Option (List Char)
  | 't' :: rest | 'T' :: rest | ' ' :: rest => some rest
  | _ => none

def readChars (cs : List Char) : Option Instant := do
  let (year, cs) ← readYear cs
  let (month, cs) ← readBounded 1 12 (← readMark '-' cs)
  let (day, cs) ← readBounded 1 31 (← readMark '-' cs)
  let (hour, cs) ← readBounded 0 23 (← readSeparator cs)
  let (minute, cs) ← readBounded 0 59 (← readMark ':' cs)
  let (second, cs) ← readBounded 0 60 (← readMark ':' cs)
  let (nanosecond, cs) ← readFraction cs
  let (offset, cs) ← readOffset cs
  let date ← Date.of? year month day
  if (Text.trimLeft cs).isEmpty then Instant.ofLocal? date hour minute second nanosecond offset
  else none

def read? (text : String) : Option Instant := readChars text.toList

end Chronomata.Timestamp
