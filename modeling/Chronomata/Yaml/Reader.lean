-- Classes of characters in outline notation, and reading a text from left to right while keeping count of lines
-- and columns.
namespace Chronomata.Yaml

def isBreak (c : Char) : Bool :=
  c = '\n' || c = '\r' || c = '\u0085' || c = '\u2028' || c = '\u2029'

def isBlank (c : Char) : Bool := c = ' ' || c = '\t'

def isWord (c : Char) : Bool := c.isAlphanum || c = '_' || c = '-'

def endsLine : Option Char → Bool
  | none => true
  | some c => isBreak c

def endsWord : Option Char → Bool
  | none => true
  | some c => isBlank c || isBreak c

-- Characters that may stand in a text: not the controls, and none that stands for nothing.
def isAllowed (c : Char) : Bool :=
  c = '\t' || c = '\n' || c = '\r' || c = '\u0085' || (0x20 ≤ c.toNat && c.toNat ≤ 0x7E)
    || (0xA0 ≤ c.toNat && c.toNat ≤ 0xFFFD) || 0x10000 ≤ c.toNat

-- Characters that are written as they are; the others only as escapes.
def isPrintable (c : Char) : Bool :=
  c = '\n' || (0x20 ≤ c.toNat && c.toNat ≤ 0x7E)
    || (0xA0 ≤ c.toNat && c.toNat ≤ 0xFFFD && c ≠ '\uFEFF') || 0x10000 ≤ c.toNat

def isIndicator (c : Char) : Bool :=
  ['-', '?', ':', ',', '[', ']', '\x7b', '\x7d', '#', '&', '*', '!', '|', '>', '\'', '"', '%', '@',
    '\x60'].contains c

def isFlowMark (c : Char) : Bool := c = ',' || c = '[' || c = ']' || c = '\x7b' || c = '\x7d'

structure Reader where
  rest : List Char
  index : Nat
  line : Nat
  column : Nat

namespace Reader

def head (r : Reader) : Option Char := r.rest.head?

def peek (r : Reader) (ahead : Nat) : Option Char := r.rest[ahead]?

def isAt (r : Reader) (c : Char) : Bool := r.head == some c

def skip (r : Reader) : Reader :=
  match r.rest with
  | [] => r
  | _ :: rest => { r with rest, index := r.index + 1, column := r.column + 1 }

def skipMany : Nat → Reader → Reader
  | 0, r => r
  | count + 1, r => skipMany count r.skip

def span (r : Reader) (kind : Char → Bool) : List Char × Reader :=
  let taken := r.rest.takeWhile kind
  (taken, { r with
    rest := r.rest.dropWhile kind
    index := r.index + taken.length
    column := r.column + taken.length })

def skipWhile (r : Reader) (kind : Char → Bool) : Reader := (r.span kind).2

def nextLine (r : Reader) (rest : List Char) (count : Nat) : Reader :=
  ⟨rest, r.index + count, r.line + 1, 0⟩

-- Read the end of a line. The separators of lines and of paragraphs keep their character; all other
-- ends count as one.
def takeBreak (r : Reader) : List Char × Reader :=
  match r.rest with
  | '\r' :: '\n' :: rest => (['\n'], r.nextLine rest 2)
  | c :: rest =>
    if c = '\u2028' ∨ c = '\u2029' then ([c], r.nextLine rest 1)
    else if isBreak c then (['\n'], r.nextLine rest 1)
    else ([], r)
  | [] => ([], r)

def skipBreak (r : Reader) : Reader := r.takeBreak.2

def skipComment (r : Reader) : Reader :=
  if r.isAt '#' then r.skipWhile fun c => !isBreak c else r

-- Pass blanks and a comment, which the end of the line must follow, and pass that too.
def finishLine (r : Reader) : Option Reader :=
  let r := (r.skipWhile isBlank).skipComment
  if endsLine r.head then some r.skipBreak else none

def isDocumentMark (r : Reader) (mark : Char) : Bool :=
  r.column = 0 && r.rest.take 3 == [mark, mark, mark] && endsWord (r.peek 3)

def isDocumentEdge (r : Reader) : Bool := r.isDocumentMark '-' || r.isDocumentMark '.'

end Reader

end Chronomata.Yaml
