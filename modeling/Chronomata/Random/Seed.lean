import Chronomata.Bytes
import Chronomata.Random.Blake3

-- The seed of one random choice: which automaton, in which state, on which cycle. Equal seeds give
-- equal draws, so a choice can be made again without any stored randomness.
namespace Chronomata

-- The random stream of the cipher ChaCha20 under a 32-byte key, from block zero with a zero nonce.
namespace Random.ChaCha20

def constants : List UInt32 := [0x61707865, 0x3320646e, 0x79622d32, 0x6b206574]

-- The four positions that each quarter of a double round mixes: columns, then diagonals.
def positions : List (Nat × Nat × Nat × Nat) :=
  [(0, 4, 8, 12), (1, 5, 9, 13), (2, 6, 10, 14), (3, 7, 11, 15),
   (0, 5, 10, 15), (1, 6, 11, 12), (2, 7, 8, 13), (3, 4, 9, 14)]

def quarter (state : List UInt32) (at4 : Nat × Nat × Nat × Nat) : List UInt32 :=
  let (i, j, k, l) := at4
  let a := state.getD i 0 + state.getD j 0
  let d := rotateLeft (state.getD l 0 ^^^ a) 16
  let c := state.getD k 0 + d
  let b := rotateLeft (state.getD j 0 ^^^ c) 12
  let a := a + b
  let d := rotateLeft (d ^^^ a) 8
  let c := c + d
  let b := rotateLeft (b ^^^ c) 7
  (((state.set i a).set j b).set k c).set l d

def doubleRounds : Nat → List UInt32 → List UInt32
  | 0, state => state
  | count + 1, state => doubleRounds count (positions.foldl quarter state)

def block (key : List UInt8) (counter : Nat) : List UInt32 :=
  let start := constants ++ wordsOfBytes 8 key
    ++ [UInt32.ofNat counter, UInt32.ofNat (counter >>> 32), 0, 0]
  List.zipWith (· + ·) start (doubleRounds 10 start)

def word64 (key : List UInt8) (index : Nat) : UInt64 :=
  let words := block key (index / 8)
  let low := words.getD (2 * (index % 8)) 0
  let high := words.getD (2 * (index % 8) + 1) 0
  high.toUInt64 <<< 32 ||| low.toUInt64

end Random.ChaCha20

structure Seed where
  automaton : String
  state : String
  cycle : UInt64
  deriving DecidableEq, Repr

namespace Seed

-- A text as bytes, preceded by their number. The length keeps neighbouring texts apart.
def lengthPrefixed (text : String) : List UInt8 :=
  let bytes := text.toUTF8.toList
  Random.littleEndian 8 bytes.length ++ bytes

def message (s : Seed) : List UInt8 :=
  lengthPrefixed s.automaton ++ lengthPrefixed s.state ++ Random.littleEndian 8 s.cycle.toNat

def bytes (s : Seed) : List UInt8 := Random.Blake3.digest s.message

def drawUnit : Float := 1.0 / 9007199254740992.0

def fraction (word : UInt64) : Float := (word >>> 11).toFloat * drawUnit

def drawAt (s : Seed) (index : Nat) : Float := fraction (Random.ChaCha20.word64 s.bytes index)

def draw (s : Seed) : Float := s.drawAt 0

end Seed

end Chronomata
