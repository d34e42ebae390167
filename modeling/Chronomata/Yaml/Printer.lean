import Chronomata.Yaml.Outline

-- Writing documents in outline notation. A pen knows where it stands on its line; what is written next
-- says itself how much room it needs in front of it.
namespace Chronomata.Yaml

structure Pen where
  text : String
  column : Nat
  isSpaced : Bool
  isFresh : Bool

namespace Pen

def start : Pen := ⟨"", 0, true, true⟩

def put (p : Pen) (c : Char) : Pen := { p with text := p.text.push c, column := p.column + 1 }

def puts (p : Pen) (cs : List Char) : Pen := cs.foldl put p

def breakLine (p : Pen) (c : Char) : Pen := { p with text := p.text.push c, column := 0 }

def indent (p : Pen) (column : Nat) : Pen :=
  let p :=
    if !p.isFresh || column < p.column || (p.column == column && !p.isSpaced) then p.breakLine '\n'
    else p
  let p := p.puts (List.replicate (column - p.column) ' ')
  { p with isSpaced := true, isFresh := true }

def space (p : Pen) : Pen := if p.isSpaced then p else p.put ' '

-- Write a mark behind a space. It may leave the line fresh.
def mark (p : Pen) (cs : List Char) (keepsFresh : Bool) : Pen :=
  let p := p.space.puts cs
  { p with isSpaced := false, isFresh := p.isFresh && keepsFresh }

def close (p : Pen) (cs : List Char) : Pen :=
  { p.puts cs with isSpaced := false, isFresh := false }

end Pen

def escapeLetter? : Char → Option Char
  | '\x00' => some '0'
  | '\x07' => some 'a'
  | '\x08' => some 'b'
  | '\t' => some 't'
  | '\n' => some 'n'
  | '\x0b' => some 'v'
  | '\x0c' => some 'f'
  | '\r' => some 'r'
  | '\x1b' => some 'e'
  | '"' => some '"'
  | '\\' => some '\\'
  | '\u0085' => some 'N'
  | '\u00a0' => some '_'
  | '\u2028' => some 'L'
  | '\u2029' => some 'P'
  | _ => none

def writeEscape (c : Char) : List Char :=
  match escapeLetter? c with
  | some letter => ['\\', letter]
  | none =>
    let digits := fun width => (Text.hexNat width c.toNat).map Char.toUpper
    if c.toNat ≤ 0xFF then ['\\', 'x'] ++ digits 2
    else if c.toNat ≤ 0xFFFF then ['\\', 'u'] ++ digits 4
    else ['\\', 'U'] ++ digits 8

def writeQuotedChar (c : Char) : List Char :=
  if !isPrintable c || isBreak c || c = '"' || c = '\\' then writeEscape c else [c]

namespace Pen

-- Write characters that may end lines, further lines at a column. `isBroken` says whether a line
-- has just ended. Between quotes a quote is written twice.
def lines (column : Nat) (isQuoted : Bool) : Bool → List Char → Pen → Bool × Pen
  | isBroken, [], p => (isBroken, p)
  | isBroken, c :: rest, p =>
    if isBreak c then
      lines column isQuoted true rest { p.breakLine c with isFresh := true }
    else if isQuoted && c = ' ' then lines column isQuoted isBroken rest (p.put c)
    else
      let p := if isBroken then p.indent column else p
      let p := if isQuoted && c = '\'' then p.put c else p
      lines column isQuoted false rest { p.put c with isFresh := false }

def singleQuoted (p : Pen) (column : Nat) (cs : List Char) : Pen :=
  let (isBroken, p) := lines column true false cs (p.mark ['\''] false)
  (if isBroken then p.indent column else p).close ['\'']

-- What heads a block: how far it is indented, if its first line could not tell, and what becomes of
-- the line breaks at its end.
def blockHead (cs : List Char) : List Char :=
  let hint := if cs.head?.any fun c => c = ' ' || isBreak c then ['2'] else []
  let chomping := match cs.reverse.map isBreak with
    | [] | false :: _ => ['-']
    | [true] | true :: true :: _ => ['+']
    | true :: false :: _ => []
  '|' :: hint ++ chomping

def literal (p : Pen) (column : Nat) (cs : List Char) : Pen :=
  let p := (p.mark (blockHead cs) false).breakLine '\n'
  (lines column false true cs { p with isSpaced := true, isFresh := true }).2

def scalar (p : Pen) (column : Nat) (isKey : Bool) (wanted : ScalarStyle) (text : String) : Pen :=
  let cs := text.toList
  match (Shape.of cs).style isKey wanted with
  | .plain => if cs.isEmpty then p else p.mark cs false
  | .singleQuoted => p.singleQuoted column cs
  | .doubleQuoted => p.mark ('"' :: cs.flatMap writeQuotedChar ++ ['"']) false
  | .literal | .folded => p.literal column cs

-- Write a key and its colon at a column. A key that is not simple has a line of its own.
def key (p : Pen) (column : Nat) (name : String) : Pen :=
  let p := p.indent column
  if isSimpleKey name then (p.scalar (column + 2) true (preferredStyle name) name).close [':']
  else
    let p := (p.mark ['?'] true).scalar (column + 2) false (preferredStyle name) name
    (p.indent column).mark [':'] true

end Pen

mutual

-- Write a document inside a collection at a column. A list that is the value of a key in front of
-- its colon stands no further to the right than the key.
def Outline.write (column : Nat) (isValue : Bool) : Outline → Pen → Pen
  | .scalar style text, p => p.scalar (column + 2) false style text
  | .list [], p => p.mark ['[', ']'] false
  | .record [], p => p.mark ['\x7b', '\x7d'] false
  | .list items, p => writeItems (if isValue && !p.isFresh then column else column + 2) items p
  | .record entries, p => writeEntries (column + 2) entries p

def writeItems (column : Nat) : List Outline → Pen → Pen
  | [], p => p
  | item :: rest, p =>
    writeItems column rest (item.write column false ((p.indent column).mark ['-'] true))

def writeEntries (column : Nat) : List (String × Outline) → Pen → Pen
  | [], p => p
  | (name, value) :: rest, p =>
    writeEntries column rest (value.write column true (p.key column name))

end

-- A document as text. A collection starts at the left margin.
def Outline.text (o : Outline) : String :=
  let p := match o with
    | .list items@(_ :: _) => writeItems 0 items .start
    | .record entries@(_ :: _) => writeEntries 0 entries .start
    | o => o.write 0 false .start
  (p.indent 0).text

end Chronomata.Yaml
