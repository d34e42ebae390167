import Chronomata.Decimal.Basic
import Chronomata.Text.Basic
import Chronomata.Yaml.Reader

-- Scalars: plain ones, quoted ones and blocks. Every reader starts behind the mark of the scalar and
-- gives back what follows it; fuel is the number of characters.
namespace Chronomata.Yaml

inductive ScalarStyle where
  | plain
  | singleQuoted
  | doubleQuoted
  | literal
  | folded
  deriving DecidableEq, Repr

-- Between two words of a scalar there may be blanks and ends of lines. A single end of a line counts
-- as one blank; of several, all but the first are kept.

structure Gap where
  blanks : List Char
  isBroken : Bool
  first : List Char
  more : List Char

namespace Gap

def none : Gap := ⟨[], false, [], []⟩

def escaped : Gap := ⟨[], true, [], []⟩

def text (g : Gap) : List Char :=
  if ¬ g.isBroken then g.blanks
  else if g.first = ['\n'] then (if g.more.isEmpty then [' '] else g.more)
  else g.first ++ g.more

-- Read a gap. In a plain scalar no tab may stand left of the column `tabs` on a further line.
def read (tabs : Int) : Nat → Gap → Reader → Option (Gap × Reader)
  | 0, _, _ => Option.none
  | fuel + 1, g, r =>
    match r.head with
    | Option.none => some (g, r)
    | some c =>
      if isBlank c then
        if g.isBroken then
          if c = '\t' ∧ r.column < tabs then Option.none else read tabs fuel g r.skip
        else read tabs fuel { g with blanks := g.blanks ++ [c] } r.skip
      else if isBreak c then
        let (ending, r) := r.takeBreak
        if g.isBroken then read tabs fuel { g with more := g.more ++ ending } r
        else read tabs fuel { g with isBroken := true, first := ending } r
      else some (g, r)

end Gap

def endsPlain (isFlow : Bool) : List Char → Bool
  | [] => true
  | c :: rest =>
    isBlank c || isBreak c || (c = ':' && endsWord rest.head?) || (isFlow && isFlowMark c)

-- Whether a colon stands before a mark that it may not stand before inside brackets.
def isStrayColon (isFlow : Bool) : List Char → Bool
  | ':' :: c :: _ => isFlow && (isFlowMark c || c = '?')
  | _ => false

def readPlainWord (isFlow : Bool) : Nat → Reader → Option (List Char × Reader)
  | 0, _ => none
  | fuel + 1, r =>
    if isStrayColon isFlow r.rest then none
    else if endsPlain isFlow r.rest then some ([], r)
    else do
      let (word, after) ← readPlainWord isFlow fuel r.skip
      some (r.head.toList ++ word, after)

-- A plain scalar of words, whose further lines must stand at column `least` at least, and whether a
-- line has ended behind its last word.
def readPlain (isFlow : Bool) (least : Int) :
    Nat → List Char → Gap → Reader → Option (List Char × Bool × Reader)
  | 0, _, _, _ => none
  | fuel + 1, text, gap, r =>
    if r.isDocumentEdge ∨ r.isAt '#' then some (text, gap.isBroken, r)
    else do
      let (word, r) ← readPlainWord isFlow (r.rest.length + 1) r
      let (text, gap) := if word.isEmpty then (text, gap) else (text ++ gap.text ++ word, Gap.none)
      match r.head with
      | none => some (text, gap.isBroken, r)
      | some c =>
        if ¬ (isBlank c ∨ isBreak c) then some (text, gap.isBroken, r)
        else do
          let (gap, r) ← Gap.read least (r.rest.length + 1) gap r
          if ¬ isFlow ∧ r.column < least then some (text, gap.isBroken, r)
          else readPlain isFlow least fuel text gap r

def escaped? : Char → Option Char
  | '0' => some '\x00'
  | 'a' => some '\x07'
  | 'b' => some '\x08'
  | 't' | '\t' => some '\t'
  | 'n' => some '\n'
  | 'v' => some '\x0b'
  | 'f' => some '\x0c'
  | 'r' => some '\r'
  | 'e' => some '\x1b'
  | ' ' => some ' '
  | '"' => some '"'
  | '/' => some '/'
  | '\\' => some '\\'
  | 'N' => some '\u0085'
  | '_' => some '\u00a0'
  | 'L' => some '\u2028'
  | 'P' => some '\u2029'
  | _ => none

def escapeWidth? : Char → Option Nat
  | 'x' => some 2
  | 'u' => some 4
  | 'U' => some 8
  | _ => none

-- An escape behind its backslash: what it stands for, and how many characters it takes.
def readEscape : List Char → Option (Char × Nat)
  | [] => none
  | c :: rest => match escapeWidth? c with
    | none => (escaped? c).map (·, 1)
    | some width => do
      let digits := rest.take width
      if digits.length < width then none
      else do
        let code ← Text.hexNat? digits
        (Text.charOf? code).map (·, width + 1)

def quoteOf (single : Bool) : Char := if single then '\'' else '"'

def readQuotedWord (single : Bool) : Nat → Reader → Option (List Char × Bool × Reader)
  | 0, _ => none
  | fuel + 1, r =>
    let go (c : Char) (count : Nat) : Option (List Char × Bool × Reader) := do
      let (word, isEscaped, after) ← readQuotedWord single fuel (r.skipMany count)
      some (c :: word, isEscaped, after)
    match r.rest with
    | [] => some ([], false, r)
    | c :: rest =>
      if isBlank c ∨ isBreak c then some ([], false, r)
      else if single ∧ c = '\'' ∧ rest.head? = some '\'' then go '\'' 2
      else if c = quoteOf single then some ([], false, r)
      else if ¬ single ∧ c = '\\' then
        if rest.head?.any isBreak then some ([], true, r.skip.skipBreak)
        else do
          let (meant, count) ← readEscape rest
          go meant (count + 1)
      else go c 1

def readQuoted (single : Bool) : Nat → List Char → Reader → Option (List Char × Reader)
  | 0, _, _ => none
  | fuel + 1, text, r =>
    if r.isDocumentEdge ∨ r.rest.isEmpty then none
    else do
      let (word, isEscaped, r) ← readQuotedWord single (r.rest.length + 1) r
      let text := text ++ word
      if r.isAt (quoteOf single) then some (text, r.skip)
      else do
        let start := if isEscaped then Gap.escaped else Gap.none
        let (gap, r) ← Gap.read 0 (r.rest.length + 1) start r
        readQuoted single fuel (text ++ gap.text) r

inductive Chomping where
  | strip
  | clip
  | keep
  deriving DecidableEq, Repr

def Chomping.ofSign? : Option Char → Option Chomping
  | some '+' => some .keep
  | some '-' => some .strip
  | _ => none

def readIncrement (r : Reader) : Option (Option Nat × Reader) :=
  match r.head with
  | some c =>
    if c.isDigit then
      (if c = '0' then none else some (some (Decimal.digitsValue [c]), r.skip))
    else some (none, r)
  | none => some (none, r)

def readBlockHead (r : Reader) : Option (Chomping × Option Nat × Reader) :=
  match Chomping.ofSign? r.head with
  | some chomping => do
    let (increment, r) ← readIncrement r.skip
    some (chomping, increment, r)
  | none => do
    let (increment, r) ← readIncrement r
    match increment, Chomping.ofSign? r.head with
    | some _, some chomping => some (chomping, increment, r.skip)
    | _, _ => some (.clip, increment, r)

-- Empty lines before a line of a block: their ends, the widest indentation, and the reader at the
-- first character that is not part of the indentation. No tab may stand in it.
def readEmptyLines (indent : Option Nat) :
    Nat → List Char → Nat → Reader → Option (List Char × Nat × Reader)
  | 0, _, _, _ => none
  | fuel + 1, breaks, widest, r =>
    let room := match indent with
      | some n => n - r.column
      | none => r.rest.length
    let spaces := ((r.rest.take room).takeWhile (· = ' ')).length
    let r := r.skipMany spaces
    let widest := max widest r.column
    if r.isAt '\t' ∧ indent.all (r.column < ·) then none
    else if r.head.any isBreak then
      let (ending, r) := r.takeBreak
      readEmptyLines indent fuel (breaks ++ ending) widest r
    else some (breaks, widest, r)

-- The lines of a block at an indentation. `ending` is the end of the line before, `breaks` are the
-- empty lines behind it, and `isIndented` says whether that line started with a blank.
def readBlockLines (isFolded : Bool) (indent : Nat) : Nat → List Char → List Char → List Char → Bool →
    Reader → Option (List Char × List Char × List Char × Reader)
  | 0, _, _, _, _, _ => none
  | fuel + 1, text, ending, breaks, isIndented, r =>
    if r.column ≠ indent ∨ r.rest.isEmpty then some (text, ending, breaks, r)
    else do
      let startsBlank := r.head.any isBlank
      let joint :=
        if isFolded ∧ ending = ['\n'] ∧ ¬ isIndented ∧ ¬ startsBlank then
          (if breaks.isEmpty then [' '] else [])
        else ending
      let (line, r) := r.span fun c => !isBreak c
      let (ending, r) := r.takeBreak
      let (empty, _, r) ← readEmptyLines (some indent) (r.rest.length + 1) [] 0 r
      readBlockLines isFolded indent fuel (text ++ joint ++ breaks ++ line) ending empty startsBlank r

def readBlock (isFolded : Bool) (parent : Int) (r : Reader) : Option (List Char × Reader) := do
  let (chomping, increment, r) ← readBlockHead r
  let r ← r.finishLine
  let given := increment.map fun n => (max parent 0).toNat + n
  let (breaks, widest, r) ← readEmptyLines given (r.rest.length + 1) [] 0 r
  let indent := given.getD (max (max widest (parent + 1).toNat) 1)
  let (text, ending, breaks, r) ←
    readBlockLines isFolded indent (r.rest.length + 1) [] [] breaks false r
  some (text ++ (if chomping = .strip then [] else ending)
    ++ (if chomping = .keep then breaks else []), r)

end Chronomata.Yaml
