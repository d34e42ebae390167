import Chronomata.Bytes

-- Codecs: values as bytes, one behind the other. Numbers have a fixed width and stand least byte
-- first; texts and lists are preceded by their length.
namespace Chronomata

structure Codec (α : Type) where
  encode : α → List UInt8
  decode : List UInt8 → Option (α × List UInt8)

namespace Codec

variable {α β : Type}

-- A value takes at least one byte, and it is decoded from its bytes, whatever follows them. Lengths are
-- words, so nothing is said of a value that takes more bytes than a word can count.
structure Restores (c : Codec α) (value : α) : Prop where
  occupied : 0 < (c.encode value).length
  restored : ∀ rest, (c.encode value).length < UInt64.size →
    c.decode (c.encode value ++ rest) = some (value, rest)

def Lossless (c : Codec α) : Prop := ∀ value, c.Restores value

def takeBytes (count : Nat) (bytes : List UInt8) : Option (List UInt8 × List UInt8) :=
  if count ≤ bytes.length then some (bytes.splitAt count) else none

def number (width : Nat) : Codec Nat where
  encode value := Random.littleEndian width value
  decode bytes := (takeBytes width bytes).map fun (word, rest) => (Random.ofLittleEndian word, rest)

def refine (c : Codec α) (write : β → α) (read : α → Option β) : Codec β where
  encode value := c.encode (write value)
  decode bytes := do
    let (written, rest) ← c.decode bytes
    some (← read written, rest)

def pair (first : Codec α) (second : Codec β) : Codec (α × β) where
  encode value := first.encode value.1 ++ second.encode value.2
  decode bytes := do
    let (a, rest) ← first.decode bytes
    let (b, rest) ← second.decode rest
    some ((a, b), rest)

def word64 : Codec UInt64 := (number 8).refine UInt64.toNat fun n => some (.ofNat n)

def word32 : Codec UInt32 := (number 4).refine UInt32.toNat fun n => some (.ofNat n)

def int64 : Codec Int64 := word64.refine Int64.toUInt64 fun w => some w.toInt64

def member [BEq α] (width : Nat) (members : List α) : Codec α :=
  (number width).refine members.idxOf fun index => members[index]?

def bool : Codec Bool := member 1 [false, true]

def repeated (c : Codec α) : Nat → List UInt8 → Option (List α × List UInt8)
  | 0, bytes => some ([], bytes)
  | count + 1, bytes => do
    let (value, rest) ← c.decode bytes
    let (values, rest) ← repeated c count rest
    some (value :: values, rest)

-- A length that is announced, unless more values would follow than bytes are left.
def announced (length : Nat) (bytes : List UInt8) : Option Nat :=
  if length ≤ bytes.length then some length else none

-- A list, after its length. Every value takes at least one byte, so a length beyond the bytes that
-- are left is refused at once.
def list (c : Codec α) : Codec (List α) where
  encode values := (number 8).encode values.length ++ values.flatMap c.encode
  decode bytes := do
    let (length, rest) ← (number 8).decode bytes
    repeated c (← announced length rest) rest

def blob : Codec (List UInt8) where
  encode bytes := (number 8).encode bytes.length ++ bytes
  decode bytes := do
    let (length, rest) ← (number 8).decode bytes
    takeBytes length rest

def text : Codec String := blob.refine Text.utf8 Text.ofUtf8?

def optional (c : Codec α) : Codec (Option α) where
  encode
    | some value => bool.encode true ++ c.encode value
    | none => bool.encode false
  decode bytes := do
    let (present, rest) ← bool.decode bytes
    if present then (c.decode rest).map fun (value, rest) => (some value, rest)
    else some (none, rest)

end Codec

end Chronomata
