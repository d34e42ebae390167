import Chronomata.Yaml.Token

-- From text to tokens. A value in front of a colon turns out to be a key only when the colon is met, so the
-- mark of a key is put in afterwards, in front of what may be one.
namespace Chronomata.Yaml

structure PossibleKey where
  isRequired : Bool
  tokensBefore : Nat
  index : Nat
  line : Nat
  column : Nat

structure Lexer where
  reader : Reader
  tokens : List Token
  -- The column of the innermost collection that is written by indentation, and those of the ones
  -- around it.
  indent : Int
  outerIndents : List Int
  allowsKey : Bool
  possibleKeys : List (Option PossibleKey)

namespace Lexer

def start (cs : List Char) : Lexer := ⟨⟨cs, 0, 0, 0⟩, [], -1, [], true, [none]⟩

def depth (l : Lexer) : Nat := l.possibleKeys.length - 1

def isFlow (l : Lexer) : Bool := 0 < l.depth

def column (l : Lexer) : Int := l.reader.column

def emit (l : Lexer) (token : Token) : Lexer := { l with tokens := token :: l.tokens }

def emitAt (l : Lexer) (before : Nat) (token : Token) : Lexer :=
  let later := l.tokens.length - before
  { l with tokens := l.tokens.take later ++ token :: l.tokens.drop later }

def emitMark (l : Lexer) (count : Nat) (token : Token) : Lexer :=
  { l.emit token with reader := l.reader.skipMany count }

def allowKey (l : Lexer) (allowsKey : Bool) : Lexer := { l with allowsKey }

def innermostKey (l : Lexer) : Option PossibleKey := l.possibleKeys.head?.join

def setInnermostKey (l : Lexer) (key : Option PossibleKey) : Lexer :=
  { l with possibleKeys := key :: l.possibleKeys.drop 1 }

def dropKey (l : Lexer) : Option Lexer :=
  if l.innermostKey.any (·.isRequired) then none else some (l.setInnermostKey none)

def markKey (l : Lexer) : Option Lexer :=
  if l.allowsKey then do
    let dropped ← l.dropKey
    some (dropped.setInnermostKey (some ⟨!l.isFlow && l.indent == l.column, l.tokens.length,
      l.reader.index, l.reader.line, l.reader.column⟩))
  else some l

def isCurrent (l : Lexer) (key : PossibleKey) : Bool :=
  key.line == l.reader.line && l.reader.index ≤ key.index + 1024

-- Forget what can no longer be a key; an error if it had to be one.
def dropOldKeys (l : Lexer) : Option Lexer :=
  if l.possibleKeys.any fun key => key.any fun k => k.isRequired && !l.isCurrent k then none
  else some { l with possibleKeys := l.possibleKeys.map fun key => key.filter l.isCurrent }

-- Open a collection at a column that is further in, in front of all but the first `before` tokens.
def openBlock (l : Lexer) (column : Int) (before : Nat) (token : Token) : Lexer :=
  if ¬ l.isFlow ∧ l.indent < column then
    { l.emitAt before token with indent := column, outerIndents := l.indent :: l.outerIndents }
  else l

def closeDeeper (l : Lexer) (column : Int) : List Int → Lexer
  | outer :: rest =>
    if column < l.indent then
      closeDeeper { l.emit .blockEnd with indent := outer, outerIndents := rest } column rest
    else l
  | [] => l

def closeBlocks (l : Lexer) (column : Int) : Lexer :=
  if l.isFlow then l else l.closeDeeper column l.outerIndents

-- Pass blanks, comments and ends of lines. A tab is a blank only where no key may start. A byte
-- order mark may start any line, and takes up one column of it.
def skipToToken : Nat → Lexer → Lexer
  | 0, l => l
  | fuel + 1, l =>
    let tabs := l.isFlow || !l.allowsKey
    let r := if l.reader.column = 0 ∧ l.reader.isAt '\uFEFF' then l.reader.skip else l.reader
    let r := (r.skipWhile fun c => c = ' ' || (tabs && c = '\t')).skipComment
    if r.head.any isBreak then
      skipToToken fuel { l with reader := r.skipBreak, allowsKey := l.allowsKey || !l.isFlow }
    else { l with reader := r }

-- A directive, or a mark between documents: everything that is open is closed first.
def atDocumentLevel (l : Lexer) : Option Lexer := do
  some ((← (l.closeBlocks (-1)).dropKey).allowKey false)

def openBracket (l : Lexer) (token : Token) : Option Lexer := do
  let l ← l.markKey
  some ({ l with possibleKeys := none :: l.possibleKeys, allowsKey := true }.emitMark 1 token)

def closeBracket (l : Lexer) (token : Token) : Option Lexer := do
  let l ← l.dropKey
  let outer := if l.isFlow then l.possibleKeys.drop 1 else l.possibleKeys
  some ({ l with possibleKeys := outer, allowsKey := false }.emitMark 1 token)

def comma (l : Lexer) : Option Lexer := do
  some (((← l.dropKey).allowKey true).emitMark 1 .flowEntry)

def entryMark (l : Lexer) : Option Lexer := do
  if ¬ l.isFlow ∧ ¬ l.allowsKey then none
  else
    let l ← (l.openBlock l.column l.tokens.length .blockSequenceStart).dropKey
    some ((l.allowKey true).emitMark 1 .blockEntry)

def keyMark (l : Lexer) : Option Lexer := do
  if ¬ l.isFlow ∧ ¬ l.allowsKey then none
  else
    let l ← (l.openBlock l.column l.tokens.length .blockMappingStart).dropKey
    some ((l.allowKey (!l.isFlow)).emitMark 1 .key)

def valueMark (l : Lexer) : Option Lexer :=
  match l.innermostKey with
  | some key =>
    let l := (l.emitAt key.tokensBefore .key).openBlock key.column key.tokensBefore
      .blockMappingStart
    some (((l.setInnermostKey none).allowKey false).emitMark 1 .value)
  | none =>
    if ¬ l.isFlow ∧ ¬ l.allowsKey then none
    else
      let l := l.openBlock l.column l.tokens.length .blockMappingStart
      some ((l.allowKey (!l.isFlow)).emitMark 1 .value)

def withKey (l : Lexer) (read : Lexer → Option (Token × Reader)) : Option Lexer := do
  let l ← l.markKey
  let (token, reader) ← read l
  some { (l.emit token).allowKey false with reader }

def quoted (single : Bool) (l : Lexer) : Option (Token × Reader) := do
  let (text, r) ← readQuoted single (l.reader.rest.length + 1) [] l.reader.skip
  some (.scalar (if single then .singleQuoted else .doubleQuoted) (String.ofList text), r)

def block (isFolded : Bool) (l : Lexer) : Option Lexer := do
  let l ← l.dropKey
  let (text, reader) ← readBlock isFolded l.indent l.reader.skip
  let token := Token.scalar (if isFolded then .folded else .literal) (String.ofList text)
  some { (l.emit token).allowKey true with reader }

-- A plain scalar. When lines have ended behind it, a key may start.
def plain (l : Lexer) : Option Lexer := do
  let l ← l.markKey
  let (text, isBroken, reader) ←
    readPlain l.isFlow (l.indent + 1) (l.reader.rest.length + 1) [] .none l.reader
  some { (l.emit (.scalar .plain (String.ofList text))).allowKey isBroken with reader }

def startsPlain (isFlow : Bool) (c : Char) (next : Option Char) : Bool :=
  !(isIndicator c || isBlank c) || (c = '-' && !next.any isBlank)
    || (!isFlow && (c = '?' || c = ':') && !endsWord next)

def readToken (l : Lexer) (c : Char) : Option Lexer :=
  let r := l.reader
  let next := r.peek 1
  if r.column = 0 ∧ c = '%' then do
    let l ← l.atDocumentLevel
    let (token, reader) ← readDirective r.skip
    some { l.emit token with reader }
  else if r.isDocumentMark '-' then do some ((← l.atDocumentLevel).emitMark 3 .documentStart)
  else if r.isDocumentMark '.' then do some ((← l.atDocumentLevel).emitMark 3 .documentEnd)
  else if c = '[' then l.openBracket .flowSequenceStart
  else if c = '\x7b' then l.openBracket .flowMappingStart
  else if c = ']' then l.closeBracket .flowSequenceEnd
  else if c = '\x7d' then l.closeBracket .flowMappingEnd
  else if c = ',' then l.comma
  else if c = '-' ∧ endsWord next then l.entryMark
  else if c = '?' ∧ (l.isFlow ∨ endsWord next) then l.keyMark
  else if c = ':' ∧ (l.isFlow ∨ endsWord next) then l.valueMark
  else if c = '*' then l.withKey fun l => (readAnchor l.reader.skip).map fun (n, r) => (.alias n, r)
  else if c = '&' then l.withKey fun l => (readAnchor l.reader.skip).map fun (n, r) => (.anchor n, r)
  else if c = '!' then l.withKey fun l => (readTag l.isFlow l.reader).map fun (t, r) => (.tag t, r)
  else if c = '|' ∧ ¬ l.isFlow then l.block false
  else if c = '>' ∧ ¬ l.isFlow then l.block true
  else if c = '\'' then l.withKey (quoted true)
  else if c = '"' then l.withKey (quoted false)
  else if startsPlain l.isFlow c next then l.plain
  else none

def readAll : Nat → Lexer → Option (List Token)
  | 0, _ => none
  | fuel + 1, l => do
    let l ← (skipToToken (l.reader.rest.length + 1) l).dropOldKeys
    let l := l.closeBlocks l.column
    match l.reader.head with
    | some c => readAll fuel (← l.readToken c)
    | none =>
      let l ← (l.closeBlocks (-1)).dropKey
      some (l.emit .streamEnd).tokens.reverse

end Lexer

def tokens? (text : String) : Option (List Token) :=
  let cs := text.toList
  if cs.all isAllowed then Lexer.readAll (cs.length + 1) (Lexer.start cs) else none

end Chronomata.Yaml
