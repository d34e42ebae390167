import Chronomata.Yaml.Lexer

-- Documents in outline notation as trees.
namespace Chronomata.Yaml

structure Properties where
  anchor : Option Nat
  tag : Option String
  deriving DecidableEq, Repr

def Properties.none : Properties := ⟨.none, .none⟩

inductive Node where
  | scalar (properties : Properties) (style : ScalarStyle) (text : String)
  | sequence (properties : Properties) (items : List Node)
  | mapping (properties : Properties) (entries : List (Node × Node))
  | alias (anchor : Nat)
  deriving Inhabited

namespace Node

def empty : Node := .scalar .none .plain ""

mutual

-- How many marks write a value: one for a scalar or an alias, and two around the parts of a
-- collection.
def size : Node → Nat
  | scalar _ _ _ | .alias _ => 1
  | sequence _ items => 2 + sizeItems items
  | mapping _ entries => 2 + sizeEntries entries

def sizeItems : List Node → Nat
  | [] => 0
  | item :: rest => size item + sizeItems rest

def sizeEntries : List (Node × Node) → Nat
  | [] => 0
  | (key, value) :: rest => size key + size value + sizeEntries rest

end

mutual

def anchored : Node → List (Nat × Node)
  | scalar p style text => (p.anchor.map (·, scalar p style text)).toList
  | sequence p items =>
    (p.anchor.map (·, sequence p items)).toList ++ anchoredItems items
  | mapping p entries =>
    (p.anchor.map (·, mapping p entries)).toList ++ anchoredEntries entries
  | .alias _ => []

def anchoredItems : List Node → List (Nat × Node)
  | [] => []
  | item :: rest => anchored item ++ anchoredItems rest

def anchoredEntries : List (Node × Node) → List (Nat × Node)
  | [] => []
  | (key, value) :: rest => anchored key ++ anchored value ++ anchoredEntries rest

end

end Node

structure Feed where
  tokens : List Token
  anchors : List (String × Nat)
  handles : List (String × String)

namespace Feed

def head (f : Feed) : Option Token := f.tokens.head?

def skip (f : Feed) : Feed := { f with tokens := f.tokens.drop 1 }

def isAt (f : Feed) (tokens : List Token) : Bool := f.head.any tokens.contains

-- A new anchor. Its number is the number of names known before.
def defineAnchor (f : Feed) (name : String) : Nat × Feed :=
  let number := f.anchors.length
  (number, { f with anchors := (name, number) :: f.anchors.filter (·.1 != name) })

-- A tag in full; none if its handle stands for nothing.
def meaning (f : Feed) (tag : WrittenTag) : Option String :=
  if tag.handle = "" then some tag.suffix
  else (f.handles.lookup tag.handle).map (· ++ tag.suffix)

def readAnchor (f : Feed) : Option String × Feed :=
  match f.head with
  | some (.anchor name) => (some name, f.skip)
  | _ => (none, f)

def readTag (f : Feed) : Option WrittenTag × Feed :=
  match f.head with
  | some (.tag tag) => (some tag, f.skip)
  | _ => (none, f)

def readProperties (f : Feed) : Option (Properties × Feed) := do
  let (before, f) := f.readAnchor
  let (tag, f) := f.readTag
  let (anchor, f) := match before, tag with
    | none, some _ => f.readAnchor
    | _, _ => (before, f)
  let tag ← match tag with
    | some tag => (f.meaning tag).map some
    | none => some none
  match anchor with
  | some name =>
    let (number, f) := f.defineAnchor name
    some (⟨some number, tag⟩, f)
  | none => some (⟨none, tag⟩, f)

end Feed

mutual

-- A value. Inside brackets no collection is written by indentation; as the value of a key a list
-- need not be indented.
def readNode (inBlock canBeUnindented : Bool) : Nat → Feed → Option (Node × Feed)
  | 0, _ => none
  | fuel + 1, f =>
    match f.head with
    | some (.alias name) => (f.anchors.lookup name).map fun number => (.alias number, f.skip)
    | _ => do
      let (p, f) ← f.readProperties
      match f.head with
      | some (.scalar style text) => some (.scalar p style text, f.skip)
      | some .flowSequenceStart => do
        let (items, f) ← readFlowItems fuel true f.skip
        some (.sequence p items, f)
      | some .flowMappingStart => do
        let (entries, f) ← readFlowEntries fuel true f.skip
        some (.mapping p entries, f)
      | other =>
        if canBeUnindented ∧ other = some .blockEntry then do
          let (items, f) ← readUnindentedItems fuel f
          some (.sequence p items, f)
        else if inBlock ∧ other = some .blockSequenceStart then do
          let (items, f) ← readItems fuel f.skip
          some (.sequence p items, f)
        else if inBlock ∧ other = some .blockMappingStart then do
          let (entries, f) ← readEntries fuel f.skip
          some (.mapping p entries, f)
        else if p = .none then none
        else some (.scalar p .plain "", f)

def readNodeUnless (inBlock canBeUnindented : Bool) (ends : List Token) :
    Nat → Feed → Option (Node × Feed)
  | 0, _ => none
  | fuel + 1, f =>
    if f.isAt ends then some (.empty, f) else readNode inBlock canBeUnindented fuel f

def readValueUnless (inBlock : Bool) (ends : List Token) : Nat → Feed → Option (Node × Feed)
  | 0, _ => none
  | fuel + 1, f =>
    if f.isAt [.value] then readNodeUnless inBlock inBlock ends fuel f.skip
    else some (.empty, f)

def readItems : Nat → Feed → Option (List Node × Feed)
  | 0, _ => none
  | fuel + 1, f =>
    match f.head with
    | some .blockEnd => some ([], f.skip)
    | some .blockEntry => do
      let (item, f) ← readNodeUnless true false [.blockEntry, .blockEnd] fuel f.skip
      let (items, f) ← readItems fuel f
      some (item :: items, f)
    | _ => none

def readUnindentedItems : Nat → Feed → Option (List Node × Feed)
  | 0, _ => none
  | fuel + 1, f =>
    match f.head with
    | some .blockEntry => do
      let (item, f) ← readNodeUnless true false [.blockEntry, .key, .value, .blockEnd] fuel f.skip
      let (items, f) ← readUnindentedItems fuel f
      some (item :: items, f)
    | _ => some ([], f)

def readEntries : Nat → Feed → Option (List (Node × Node) × Feed)
  | 0, _ => none
  | fuel + 1, f =>
    match f.head with
    | some .blockEnd => some ([], f.skip)
    | some .key => do
      let ends := [.key, .value, .blockEnd]
      let (key, f) ← readNodeUnless true true ends fuel f.skip
      let (value, f) ← readValueUnless true ends fuel f
      let (entries, f) ← readEntries fuel f
      some ((key, value) :: entries, f)
    | _ => none

-- The items of a list in brackets, and the closing bracket. A comma stands between two of them, and
-- may stand behind the last.
def readFlowItems : Nat → Bool → Feed → Option (List Node × Feed)
  | 0, _, _ => none
  | fuel + 1, isFirst, f =>
    if f.isAt [.flowSequenceEnd] then some ([], f.skip)
    else if ¬ isFirst ∧ ¬ f.isAt [.flowEntry] then none
    else
      let f := if isFirst then f else f.skip
      if f.isAt [.flowSequenceEnd] then some ([], f.skip)
      else do
        let (item, f) ← if f.isAt [.key] then readFlowPair fuel f.skip else readNode false false fuel f
        let (items, f) ← readFlowItems fuel false f
        some (item :: items, f)

-- An item of a list in brackets that is a mapping of a single entry. A missing key takes the token
-- in its place with it.
def readFlowPair : Nat → Feed → Option (Node × Feed)
  | 0, _ => none
  | fuel + 1, f => do
    let ends := [.flowEntry, .flowSequenceEnd]
    let (key, f) ←
      if f.isAt (.value :: ends) then some (.empty, f.skip) else readNode false false fuel f
    let (value, f) ← readValueUnless false ends fuel f
    some (.mapping .none [(key, value)], f)

def readFlowEntries : Nat → Bool → Feed → Option (List (Node × Node) × Feed)
  | 0, _, _ => none
  | fuel + 1, isFirst, f =>
    if f.isAt [.flowMappingEnd] then some ([], f.skip)
    else if ¬ isFirst ∧ ¬ f.isAt [.flowEntry] then none
    else
      let f := if isFirst then f else f.skip
      let ends := [.flowEntry, .flowMappingEnd]
      if f.isAt [.flowMappingEnd] then some ([], f.skip)
      else if f.isAt [.key] then do
        let (key, f) ← readNodeUnless false false (.value :: ends) fuel f.skip
        let (value, f) ← readValueUnless false ends fuel f
        let (entries, f) ← readFlowEntries fuel false f
        some ((key, value) :: entries, f)
      else do
        let (key, f) ← readNode false false fuel f
        let (entries, f) ← readFlowEntries fuel false f
        some ((key, .empty) :: entries, f)

end

def defaultHandles : List (String × String) := [("!", "!"), ("!!", "tag:yaml.org,2002:")]

-- The directives in front of a document: what handles stand for. A version may be given once, and a
-- handle may be given a meaning once.
def readDirectives (hasVersion : Bool) (handles : List (String × String)) :
    List Token → Option (List (String × String) × List Token)
  | .versionDirective major minor :: rest =>
    if hasVersion ∨ major ≠ 1 ∨ ¬ (minor = 1 ∨ minor = 2) then none
    else readDirectives true handles rest
  | .tagDirective handle meaning :: rest =>
    if (handles.lookup handle).isSome then none
    else readDirectives hasVersion ((handle, meaning) :: handles) rest
  | rest => some (handles ++ defaultHandles, rest)

def announcesDocument : Option Token → Bool
  | some (.versionDirective _ _) | some (.tagDirective _ _) | some .documentStart => true
  | _ => false

def readAnnounced (tokens : List Token) : Option (Node × Feed) := do
  let (handles, rest) ← readDirectives false [] tokens
  match rest with
  | .documentStart :: rest =>
    let f : Feed := ⟨rest, [], handles⟩
    if announcesDocument f.head ∨ f.isAt [.documentEnd, .streamEnd] then some (.empty, f)
    else readNode true false (3 * rest.length + 3) f
  | _ => none

def Node.ofText? (text : String) : Option Node := do
  let tokens ← tokens? text
  let (node, f) ← match tokens with
    | [] | [.streamEnd] => none
    | _ =>
      if announcesDocument tokens.head? then readAnnounced tokens
      else readNode true false (3 * tokens.length + 3) ⟨tokens, [], defaultHandles⟩
  if f.tokens.dropWhile (· = .documentEnd) = [.streamEnd] then some node else none

end Chronomata.Yaml
