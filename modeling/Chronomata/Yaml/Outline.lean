import Chronomata.Decimal.Notation
import Chronomata.Json.Basic
import Chronomata.Yaml.Plain
import Chronomata.Yaml.Scalar

-- Documents to be written in outline notation, and how their scalars may be written.
namespace Chronomata.Yaml

-- A document to be written. Every scalar says how it would like to be written.
inductive Outline where
  | scalar (style : ScalarStyle) (text : String)
  | list (items : List Outline)
  | record (entries : List (String × Outline))
  deriving Inhabited

-- How a text would like to be written: as a block if it has several lines, and between quotes if it
-- would mean something else without them.
def preferredStyle (text : String) : ScalarStyle :=
  if text.contains '\n' then .literal
  else if Plain.isAmbiguous text then .singleQuoted
  else .plain

instance : Sink Outline where
  bool b := .scalar .plain (if b then "true" else "false")
  integer i := .scalar .plain (toString i)
  float x := .scalar .plain (Decimal.text .outline x)
  text t := .scalar (preferredStyle t) t
  list := .list
  record := .record

def isLeadingMark (c : Char) : Bool :=
  [',', '[', ']', '\x7b', '\x7d', '#', '&', '*', '!', '|', '>', '\'', '"', '%', '@', '\x60'].contains c

def startsWithMark : List Char → Bool
  | '-' :: '-' :: '-' :: _ | '.' :: '.' :: '.' :: _ => true
  | c :: rest => isLeadingMark c || ((c = '?' || c = ':' || c = '-') && endsWord rest.head?)
  | [] => false

-- Whether two neighbouring characters would be taken for something else: a colon before a gap, or a
-- gap before a comment.
def isMarkPair (c next : Option Char) : Bool :=
  (c = some ':' && endsWord next) || (endsWord c && next = some '#')

def neighbours (cs : List Char) : List (Option Char × Option Char) :=
  (cs.map some).zip ((cs.drop 1).map some ++ [none])

-- Whether some line break stands next to a space, in the order that two tests give.
def hasPair (cs : List Char) (first second : Char → Bool) : Bool :=
  (neighbours cs).any fun p => p.1.any first && p.2.any second

structure Shape where
  isEmpty : Bool
  hasBreaks : Bool
  hasLooseEnds : Bool
  endsWithSpace : Bool
  hasIndentation : Bool
  needsEscapes : Bool
  hasMarks : Bool
  deriving DecidableEq, Repr

def Shape.of (cs : List Char) : Shape where
  isEmpty := cs.isEmpty
  hasBreaks := cs.any isBreak
  hasLooseEnds := (cs.head?.toList ++ cs.getLast?.toList).any fun c => c = ' ' || isBreak c
  endsWithSpace := cs.getLast? == some ' '
  hasIndentation := hasPair cs isBreak (· = ' ')
  needsEscapes := cs.any (fun c => !isPrintable c) || hasPair cs (· = ' ') isBreak
  hasMarks := startsWithMark cs || (neighbours cs).any fun p => isMarkPair p.1 p.2

def Shape.allowsPlain (s : Shape) : Bool :=
  !(s.hasBreaks || s.hasLooseEnds || s.needsEscapes || s.hasMarks)

def Shape.allowsSingleQuotes (s : Shape) : Bool := !(s.hasIndentation || s.needsEscapes)

def Shape.allowsBlock (s : Shape) : Bool := !(s.isEmpty || s.endsWithSpace || s.needsEscapes)

-- The style in which a text is written that would like another. A key in front of its colon stands
-- on one line, and is never without any character.
def Shape.style (s : Shape) (isKey : Bool) (wanted : ScalarStyle) : ScalarStyle :=
  let wanted := if isKey && s.hasBreaks then .doubleQuoted else wanted
  let wanted := if wanted = .plain && (!s.allowsPlain || (s.isEmpty && isKey)) then .singleQuoted
    else wanted
  match wanted with
  | .singleQuoted => if s.allowsSingleQuotes then .singleQuoted else .doubleQuoted
  | .literal | .folded => if s.allowsBlock && !isKey then .literal else .doubleQuoted
  | style => style

-- Whether a text is short enough, and without line breaks, to be written as a key in front of its
-- colon.
def isSimpleKey (text : String) : Bool := !text.toList.any isBreak && text.utf8ByteSize ≤ 128

end Chronomata.Yaml
