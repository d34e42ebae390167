import Chronomata.Yaml.Scalar

-- Tokens of outline notation: marks, names and scalars. Collections that are written by indentation
-- have tokens for their start and their end too.
namespace Chronomata.Yaml

structure WrittenTag where
  handle : String
  suffix : String
  deriving DecidableEq, Repr

inductive Token where
  | versionDirective (major minor : Nat)
  | tagDirective (handle meaning : String)
  | documentStart
  | documentEnd
  | streamEnd
  | blockSequenceStart
  | blockMappingStart
  | blockEnd
  | flowSequenceStart
  | flowSequenceEnd
  | flowMappingStart
  | flowMappingEnd
  | blockEntry
  | flowEntry
  | key
  | value
  | alias (name : String)
  | anchor (name : String)
  | tag (written : WrittenTag)
  | scalar (style : ScalarStyle) (text : String)
  deriving DecidableEq, Repr

def readWord (r : Reader) : Option (String × Reader) :=
  let (word, r) := r.span isWord
  if word.isEmpty then none else some (String.ofList word, r)

def endsAnchor (c : Option Char) : Bool :=
  endsWord c || c.any ['?', ':', ',', ']', '\x7d', '%', '@', '\x60'].contains

def readAnchor (r : Reader) : Option (String × Reader) := do
  let (name, r) ← readWord r
  if endsAnchor r.head then some (name, r) else none

def utf8Width? (first : Nat) : Option Nat :=
  if first < 0x80 then some 1
  else if 0xC0 ≤ first ∧ first < 0xE0 then some 2
  else if 0xE0 ≤ first ∧ first < 0xF0 then some 3
  else if 0xF0 ≤ first ∧ first < 0xF8 then some 4
  else none

def readEscapedByte (r : Reader) : Option (Nat × Reader) :=
  match r.rest with
  | '%' :: a :: b :: _ => (Text.hexNat? [a, b]).map (·, r.skipMany 3)
  | _ => none

def readFurtherBytes : Nat → Nat → Reader → Option (Nat × Reader)
  | 0, code, r => some (code, r)
  | count + 1, code, r => do
    let (byte, r) ← readEscapedByte r
    if byte / 64 = 2 then readFurtherBytes count (64 * code + byte % 64) r else none

def readEscapedChar (r : Reader) : Option (Char × Reader) := do
  let (first, r) ← readEscapedByte r
  let width ← utf8Width? first
  let start := if width = 1 then first else first % 1 <<< (7 - width)
  let (code, r) ← readFurtherBytes (width - 1) start r
  some (Char.ofNat code, r)

-- Characters that tags are made of; brackets and commas only when a tag is written in full.
def isTagChar (full : Bool) (c : Char) : Bool :=
  isWord c || ";/?:@&=+$.%!~*'()".toList.contains c || (full && ",[]".toList.contains c)

def readTagChars (full : Bool) : Nat → Reader → Option (List Char × Reader)
  | 0, _ => none
  | fuel + 1, r =>
    match r.head with
    | none => some ([], r)
    | some c =>
      if ¬ isTagChar full c then some ([], r)
      else do
        let (c, r) ← if c = '%' then readEscapedChar r else some (c, r.skip)
        let (cs, r) ← readTagChars full fuel r
        some (c :: cs, r)

-- The part of a tag behind `handle`, of which the leading mark is dropped. It may be empty only
-- when the handle is not.
def readSuffix (full : Bool) (handle : List Char) (r : Reader) : Option (String × Reader) := do
  let (cs, r) ← readTagChars full (r.rest.length + 1) r
  if handle.isEmpty ∧ cs.isEmpty then none
  else some (String.ofList (handle.drop 1 ++ cs), r)

def readHandle (r : Reader) : Option (List Char × Reader) :=
  if ¬ r.isAt '!' then none
  else
    let (word, r) := r.skip.span isWord
    if r.isAt '!' then some ('!' :: word ++ ['!'], r.skip) else some ('!' :: word, r)

def isNamedHandle (handle : List Char) : Bool := 1 < handle.length && handle.getLast? == some '!'

def readWrittenTag (r : Reader) : Option (WrittenTag × Reader) := do
  if r.peek 1 = some '<' then
    let (suffix, r) ← readSuffix true [] (r.skipMany 2)
    if r.isAt '>' then some (⟨"", suffix⟩, r.skip) else none
  else
    let (handle, r) ← readHandle r
    if isNamedHandle handle then
      let (suffix, r) ← readSuffix false [] r
      some (⟨String.ofList handle, suffix⟩, r)
    else
      let (suffix, r) ← readSuffix false handle r
      some (if suffix = "" then ⟨"", "!"⟩ else ⟨"!", suffix⟩, r)

-- A tag, and a blank behind it; inside brackets a comma serves too.
def readTag (isFlow : Bool) (r : Reader) : Option (WrittenTag × Reader) := do
  let (tag, r) ← readWrittenTag r
  if endsWord r.head ∨ (isFlow ∧ r.isAt ',') then some (tag, r) else none

def readVersionNumber (r : Reader) : Option (Nat × Reader) :=
  let (digits, r) := r.span Char.isDigit
  if digits.isEmpty ∨ 9 < digits.length then none else some (Decimal.digitsValue digits, r)

def readDirectiveValue (name : String) (r : Reader) : Option (Token × Reader) :=
  let r := r.skipWhile isBlank
  if name = "YAML" then do
    let (major, r) ← readVersionNumber r
    if ¬ r.isAt '.' then none
    else
      let (minor, r) ← readVersionNumber r.skip
      some (.versionDirective major minor, r)
  else if name = "TAG" then do
    let (handle, r) ← readHandle r
    if ¬ (isNamedHandle handle ∨ handle = ['!']) ∨ ¬ r.head.any isBlank then none
    else
      let (meaning, r) ← readSuffix true [] (r.skipWhile isBlank)
      if endsWord r.head then some (.tagDirective (String.ofList handle) meaning, r) else none
  else none

def readDirective (r : Reader) : Option (Token × Reader) := do
  let (name, r) ← readWord r
  if ¬ endsWord r.head then none
  else
    let (token, r) ← readDirectiveValue name r
    some (token, ← r.finishLine)

end Chronomata.Yaml
