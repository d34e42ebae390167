import Chronomata.Decimal.Basic
import Chronomata.Toml.Table
import Chronomata.Toml.Text

-- Documents in configuration notation. Of the values only texts, whole numbers, tables and empty lists are
-- read: no configuration of an engine has a use for others.
namespace Chronomata.Toml

-- Digits of a kind, between any two of which an underscore may stand; at least one.
def readDigits (isDigit : Char → Bool) : List Char → Option (List Char × List Char)
  | [] => none
  | c :: '_' :: rest =>
    if isDigit c then (readDigits isDigit rest).map fun found => (c :: found.1, found.2) else none
  | c :: rest =>
    if ¬ isDigit c then none
    else if rest.head?.any isDigit then
      (readDigits isDigit rest).map fun found => (c :: found.1, found.2)
    else some ([c], rest)

def isDigitOf (base : Nat) (c : Char) : Bool := (Text.hexValue? c).any (· < base)

def readInBase (base : Nat) (cs : List Char) : Option (Nat × List Char) :=
  (readDigits (isDigitOf base) cs).map fun found =>
    (found.1.foldl (fun value c => base * value + (Text.hexValue? c).getD 0) 0, found.2)

-- A decimal number. A zero stands alone.
def readDecimal : List Char → Option (Nat × List Char)
  | '0' :: rest => some (0, rest)
  | cs => readInBase 10 cs

-- A whole number. Only a decimal one has a sign.
def readSigned : List Char → Option (Int × List Char)
  | '0' :: 'x' :: rest => (readInBase 16 rest).map fun found => (found.1, found.2)
  | '0' :: 'o' :: rest => (readInBase 8 rest).map fun found => (found.1, found.2)
  | '0' :: 'b' :: rest => (readInBase 2 rest).map fun found => (found.1, found.2)
  | '-' :: rest => (readDecimal rest).map fun found => (-found.1, found.2)
  | '+' :: rest => (readDecimal rest).map fun found => (found.1, found.2)
  | cs => (readDecimal cs).map fun found => (found.1, found.2)

def readInteger (cs : List Char) : Option (Item × List Char) := do
  let (value, rest) ← readSigned cs
  if Int64.minValue.toInt ≤ value ∧ value ≤ Int64.maxValue.toInt then some (.integer value, rest) else none

mutual

def readValue : Nat → List Char → Option (Item × List Char)
  | 0, _ => none
  | fuel + 1, cs =>
    match cs with
    | '"' :: rest => (readText '"' rest).map fun found => (.text found.1, found.2)
    | '\'' :: rest => (readText '\'' rest).map fun found => (.text found.1, found.2)
    | '[' :: rest =>
      match dropComments (rest.length + 1) rest with
      | ']' :: rest => some (.emptyList, rest)
      | _ => none
    | '\x7b' :: rest =>
      match dropBlanks rest with
      | '\x7d' :: rest => some (.table .braced [], rest)
      | rest => (readBraced fuel [] rest).map fun found => (.table .braced found.1, found.2)
    | cs => readInteger cs

def readEntry : Nat → List Char → Option ((List String × Item) × List Char)
  | 0, _ => none
  | fuel + 1, cs => do
    let (path, rest) ← readPath (cs.length + 1) cs
    match rest with
    | '=' :: rest =>
      let (item, rest) ← readValue fuel (dropBlanks rest)
      some ((path, item), rest)
    | _ => none

-- The entries of a table in braces, at least one, with commas between them, and the brace.
def readBraced : Nat → Entries → List Char → Option (Entries × List Char)
  | 0, _, _ => none
  | fuel + 1, entries, cs => do
    let ((path, item), rest) ← readEntry fuel cs
    let entries ← entries.define path item
    match dropBlanks rest with
    | '\x7d' :: rest => some (entries, rest)
    | ',' :: rest => readBraced fuel entries rest
    | _ => none

end

def readHeader (cs : List Char) : Option (List String × List Char) := do
  let (path, rest) ← readPath (cs.length + 1) cs
  match rest with
  | ']' :: rest => some (path, rest)
  | _ => none

def readLinesUnder (header : List String) (entries : Entries) : Nat → List Char → Option Entries
  | 0, _ => none
  | fuel + 1, cs =>
    match dropBlanks cs with
    | [] => some entries
    | '[' :: rest => do
      let (path, rest) ← readHeader rest
      readLinesUnder path (← entries.head path) fuel (← finishLine rest)
    | c :: rest => do
      if c = '#' ∨ c = '\n' ∨ c = '\r' then
        readLinesUnder header entries fuel (← finishLine (c :: rest))
      else
        let ((path, item), rest) ← readEntry (2 * rest.length + 3) (c :: rest)
        let entries ← Entries.descend .passed (fun _ inner => inner.define path item) header
          .headed entries
        readLinesUnder header entries fuel (← finishLine rest)

-- The table of a whole document. A byte order mark may stand in front of it.
def parse (text : String) : Option Entries :=
  let cs := match text.toList with
    | '\uFEFF' :: rest => rest
    | cs => cs
  readLinesUnder [] [] (cs.length + 1) cs

end Chronomata.Toml
