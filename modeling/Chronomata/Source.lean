import Chronomata.Json.Parser

-- Reading typed values from a parsed document, whatever notation it was written in. A reader answers with
-- nothing when a node does not fit.
namespace Chronomata

class Source (ν : Type) where
  text? : ν → Option String
  bool? : ν → Option Bool
  integer? : ν → Option Int
  -- A float. Integers count as floats.
  float? : ν → Option Float
  absent? : ν → Option Bool
  items? : ν → Option (List ν)
  -- The fields of a record that is written as a list, in a notation where records may be.
  fieldItems? : ν → Option (List ν)
  entries? : ν → Option (List (String × ν))
  variant? : ν → Option (String × Option ν)
  isUnit : ν → Bool

namespace Source

variable {ν α : Type} [Source ν]

def list? (read : ν → Option α) (node : ν) : Option (List α) := do
  (← items? node).mapM read

def map? (read : ν → Option α) (node : ν) : Option (List (String × α)) := do
  (← entries? node).mapM fun e => (read e.2).map (e.1, ·)

def optional? (read : ν → Option α) (node : ν) : Option (Option α) := do
  if ← absent? node then some none else (read node).map some

def bounded? (least most : Int) (node : ν) : Option Int := do
  let value ← integer? node
  if least ≤ value ∧ value ≤ most then some value else none

def word64? (node : ν) : Option UInt64 :=
  (bounded? 0 (UInt64.size - 1) node).map fun value => UInt64.ofNat value.toNat

def int64? (node : ν) : Option Int64 :=
  (bounded? Int64.minValue.toInt Int64.maxValue.toInt node).map Int64.ofInt

def choice? (alternatives : List (String × α)) (node : ν) : Option α := do
  let (name, carried) ← variant? node
  let value ← alternatives.lookup name
  match carried with
  | none => some value
  | some carried => if isUnit carried then some value else none

-- A record is written as a map from field names. Some notations have it as a list of its fields in order
-- too.

abbrev Fields (ν : Type) := List (String × ν)

-- The fields of a record whose names, in order, are given. No known field may occur twice, and a
-- list may not be longer than the names; unknown fields are left alone.
def fields? (names : List String) (node : ν) : Option (Fields ν) :=
  match fieldItems? node with
  | some items =>
    if items.length ≤ names.length then some (names.zip items) else none
  | none => do
    let entries ← entries? node
    let known := (entries.map (·.1)).filter names.contains
    if known.Nodup then some entries else none

def allFields? (names : List String) (node : ν) : Option (Fields ν) :=
  match fieldItems? node with
  | some items =>
    if items.length = names.length then some (names.zip items) else none
  | none => fields? names node

namespace Fields

def get? (fields : Fields ν) (name : String) (read : ν → Option α) : Option α := do
  read (← fields.lookup name)

def getD? (fields : Fields ν) (name : String) (missing : α) (read : ν → Option α) : Option α :=
  match fields.lookup name with
  | some node => read node
  | none => some missing

def optional? (fields : Fields ν) (name : String) (read : ν → Option α) : Option (Option α) :=
  fields.getD? name none (Source.optional? read)

end Fields

end Source

namespace Json

-- The items of a list; nothing else has items.
def items? : Json → Option (List Json)
  | .list items => some items
  | _ => none

-- The members of a record; nothing else has members.
def members? : Json → Option (List (String × Json))
  | .record members => some members
  | _ => none

def variant? : Json → Option (String × Option Json)
  | .text name => some (name, none)
  | .record [(name, carried)] => some (name, some carried)
  | _ => none

instance : Source Json where
  text?
    | .text value => some value
    | _ => none
  bool?
    | .bool value => some value
    | _ => none
  integer?
    | .number written => (literal? written).bind (·.toInt?)
    | _ => none
  float?
    | .number written => (literal? written).bind (·.toFloat?)
    | _ => none
  absent?
    | .null => some true
    | _ => some false
  items? := items?
  fieldItems? := items?
  entries? := members?
  variant? := variant?
  isUnit
    | .null => true
    | _ => false

end Json

end Chronomata
