import Chronomata.Json.Basic
import Chronomata.Text.Basic

-- Reading documents in object notation. The readers of values call one another; their fuel is counted from the
-- length of the text, and `parse` hides it.
namespace Chronomata.Json

def isSpace (c : Char) : Bool := c = ' ' || c = '\n' || c = '\t' || c = '\r'

def skipSpace (cs : List Char) : List Char := cs.dropWhile isSpace

def readWhole (cs : List Char) : Option (List Char × List Char) :=
  match Decimal.spanDigits cs with
  | ([], _) => none
  | ('0' :: _ :: _, _) => none
  | (digits, rest) => some (digits, rest)

def readFraction : List Char → Option (List Char × List Char)
  | '.' :: rest => match Decimal.spanDigits rest with
    | ([], _) => none
    | (digits, rest) => some (digits, rest)
  | cs => some ([], cs)

def readNumber (cs : List Char) : Option (Decimal.Literal × List Char) := do
  let (negative, rest) := Decimal.readMinus cs
  let (whole, rest) ← readWhole rest
  let (fraction, rest) ← readFraction rest
  let (exponent, rest) ← Decimal.readExponent rest
  some (⟨negative, Decimal.digitsValue (whole ++ fraction), exponent.getD 0 - fraction.length,
    fraction.isEmpty && exponent.isNone⟩, rest)

def literal? (written : String) : Option Decimal.Literal :=
  match readNumber written.toList with
  | some (literal, []) => some literal
  | _ => none

-- The characters that numbers are made of. None of them may follow a number.
def isNumeric (c : Char) : Bool :=
  c.isDigit || c = '-' || c = '+' || c = '.' || c = 'e' || c = 'E'

inductive Piece where
  | char (c : Char)
  | half (code : Nat)

def escaped? : Char → Option Char
  | '"' => some '"'
  | '\\' => some '\\'
  | '/' => some '/'
  | 'b' => some '\x08'
  | 'f' => some '\x0c'
  | 'n' => some '\n'
  | 'r' => some '\r'
  | 't' => some '\t'
  | _ => none

def Piece.ofCode (code : Nat) : Piece :=
  if 0xD800 ≤ code ∧ code < 0xE000 then .half code else .char (Char.ofNat code)

-- The pieces up to the closing quote. Control characters must be escaped.
def readPieces : List Char → Option (List Piece × List Char)
  | [] => none
  | '"' :: rest => some ([], rest)
  | '\\' :: 'u' :: a :: b :: c :: d :: rest => do
    let code ← Text.hexNat? [a, b, c, d]
    let (pieces, rest) ← readPieces rest
    some (Piece.ofCode code :: pieces, rest)
  | '\\' :: e :: rest => do
    let c ← escaped? e
    let (pieces, rest) ← readPieces rest
    some (.char c :: pieces, rest)
  | c :: rest =>
    if c.toNat < 0x20 ∨ c = '\\' then none
    else do
      let (pieces, rest) ← readPieces rest
      some (.char c :: pieces, rest)

-- The characters of pieces. An upper half counts only right before a lower one.
def joinPieces : List Piece → Option (List Char)
  | [] => some []
  | .char c :: rest => do some (c :: (← joinPieces rest))
  | .half high :: .half low :: rest =>
    if high < 0xDC00 ∧ 0xDC00 ≤ low then do
      let c := Char.ofNat (0x10000 + (high - 0xD800) * 0x400 + (low - 0xDC00))
      some (c :: (← joinPieces rest))
    else none
  | .half _ :: _ => none

def readText (cs : List Char) : Option (Option String × List Char) := do
  let (pieces, rest) ← readPieces cs
  some ((joinPieces pieces).map String.ofList, rest)

def readWord : List Char → List Char → Option (List Char)
  | [], rest => some rest
  | w :: word, c :: rest => if w = c then readWord word rest else none
  | _ :: _, [] => none

def recordOf (members : List (Option String × Json)) : Json :=
  match members.mapM fun m => m.1.map (·, m.2) with
  | some members => .record members
  | none => .unreadable

mutual

def readValue : Nat → List Char → Option (Json × List Char)
  | 0, _ => none
  | fuel + 1, cs =>
    match skipSpace cs with
    | 'n' :: rest => (readWord "ull".toList rest).map (Json.null, ·)
    | 't' :: rest => (readWord "rue".toList rest).map (Json.bool true, ·)
    | 'f' :: rest => (readWord "alse".toList rest).map (Json.bool false, ·)
    | '"' :: rest => do
      let (value, rest) ← readText rest
      some (value.elim .unreadable .text, rest)
    | '[' :: rest =>
      match skipSpace rest with
      | ']' :: rest => some (.list [], rest)
      | rest => do
        let (items, rest) ← readItems fuel rest
        some (.list items, rest)
    | '\x7b' :: rest =>
      match skipSpace rest with
      | '\x7d' :: rest => some (.record [], rest)
      | rest => do
        let (members, rest) ← readMembers fuel rest
        some (recordOf members, rest)
    | cs => do
      let (_, rest) ← readNumber cs
      some (.number (String.ofList (cs.takeWhile isNumeric)), rest)

def readItems : Nat → List Char → Option (List Json × List Char)
  | 0, _ => none
  | fuel + 1, cs => do
    let (item, rest) ← readValue fuel cs
    match skipSpace rest with
    | ',' :: rest => do
      let (items, rest) ← readItems fuel rest
      some (item :: items, rest)
    | ']' :: rest => some ([item], rest)
    | _ => none

def readMembers : Nat → List Char → Option (List (Option String × Json) × List Char)
  | 0, _ => none
  | fuel + 1, cs =>
    match skipSpace cs with
    | '"' :: rest => do
      let (key, rest) ← readText rest
      match skipSpace rest with
      | ':' :: rest => do
        let (value, rest) ← readValue fuel rest
        match skipSpace rest with
        | ',' :: rest => do
          let (members, rest) ← readMembers fuel rest
          some ((key, value) :: members, rest)
        | '\x7d' :: rest => some ([(key, value)], rest)
        | _ => none
      | _ => none
    | _ => none

end

-- Enough fuel for any text: no reader calls another twice without taking a character.
def fuelFor (cs : List Char) : Nat := 2 * cs.length + 2

def parse (text : String) : Option Json := do
  let cs := text.toList
  let (value, rest) ← readValue (fuelFor cs) cs
  if (skipSpace rest).isEmpty then some value else none

end Chronomata.Json
