import Chronomata.Bytes

-- The digest BLAKE3: a message is cut into chunks, each chunk is folded block by block into a chaining
-- value, and the chaining values are joined by a binary tree whose left half is always full.
namespace Chronomata.Random.Blake3

def initial : List UInt32 :=
  [0x6A09E667, 0xBB67AE85, 0x3C6EF372, 0xA54FF53A, 0x510E527F, 0x9B05688C, 0x1F83D9AB, 0x5BE0CD19]

def chunkStart : UInt32 := 1
def chunkEnd : UInt32 := 2
def parent : UInt32 := 4
def root : UInt32 := 8

def blockSize : Nat := 64
def chunkSize : Nat := 1024

def permutation : List Nat := [2, 6, 3, 10, 7, 0, 4, 13, 1, 11, 12, 5, 9, 14, 15, 8]

-- The four positions that each of the eight steps of a round mixes: columns, then diagonals.
def positions : List (Nat × Nat × Nat × Nat) :=
  [(0, 4, 8, 12), (1, 5, 9, 13), (2, 6, 10, 14), (3, 7, 11, 15),
   (0, 5, 10, 15), (1, 6, 11, 12), (2, 7, 8, 13), (3, 4, 9, 14)]

def mix (state : List UInt32) (at4 : Nat × Nat × Nat × Nat) (x y : UInt32) : List UInt32 :=
  let (i, j, k, l) := at4
  let a := state.getD i 0 + state.getD j 0 + x
  let d := rotateRight (state.getD l 0 ^^^ a) 16
  let c := state.getD k 0 + d
  let b := rotateRight (state.getD j 0 ^^^ c) 12
  let a := a + b + y
  let d := rotateRight (d ^^^ a) 8
  let c := c + d
  let b := rotateRight (b ^^^ c) 7
  (((state.set i a).set j b).set k c).set l d

def mixAll : List (Nat × Nat × Nat × Nat) → List UInt32 → List UInt32 → List UInt32
  | at4 :: rest, x :: y :: message, state => mixAll rest message (mix state at4 x y)
  | _, _, state => state

def rounds : Nat → List UInt32 → List UInt32 → List UInt32
  | 0, _, state => state
  | count + 1, message, state =>
    rounds count (permutation.map fun i => message.getD i 0) (mixAll positions message state)

-- What one compression reads, before it is known whether it is the last of the tree.
structure Node where
  chaining : List UInt32
  block : List UInt32
  counter : Nat
  length : Nat
  flags : UInt32

def Node.compress (n : Node) (extra : UInt32) : List UInt32 :=
  let state := n.chaining ++ initial.take 4
    ++ [UInt32.ofNat n.counter, UInt32.ofNat (n.counter >>> 32), UInt32.ofNat n.length,
        n.flags ||| extra]
  let mixed := rounds 7 n.block state
  List.zipWith (· ^^^ ·) (mixed.take 8) (mixed.drop 8)

-- Cut a list into parts of a positive size; the empty list is one empty part. The fuel bounds the
-- number of further parts.
def parts (size : Nat) : Nat → List UInt8 → List (List UInt8)
  | 0, bytes => [bytes]
  | fuel + 1, bytes =>
    if bytes.length ≤ size then [bytes] else bytes.take size :: parts size fuel (bytes.drop size)

-- The last compression of a chunk, the blocks before it folded into its chaining value.
def chunkNode (counter : Nat) (chunk : List UInt8) : Node :=
  let rec fold (chaining : List UInt32) (start : UInt32) : List (List UInt8) → Node
    | [] => ⟨chaining, wordsOfBytes 16 [], counter, 0, start ||| chunkEnd⟩
    | [last] => ⟨chaining, wordsOfBytes 16 last, counter, last.length, start ||| chunkEnd⟩
    | block :: rest =>
      let node : Node := ⟨chaining, wordsOfBytes 16 block, counter, block.length, start⟩
      fold (node.compress 0) 0 rest
  fold initial chunkStart (parts blockSize chunk.length chunk)

def parentNode (left right : Node) : Node :=
  ⟨initial, left.compress 0 ++ right.compress 0, 0, blockSize, parent⟩

def leftSize (chunks : Nat) : Nat := 1 <<< (chunks - 1).log2

-- The last compression over a run of chunks, numbered from `counter` on. The fuel bounds the depth
-- of the tree.
def treeNode : Nat → Nat → List (List UInt8) → Node
  | 0, counter, chunks => chunkNode counter (chunks.headD [])
  | fuel + 1, counter, chunks =>
    if chunks.length ≤ 1 then chunkNode counter (chunks.headD [])
    else
      let left := leftSize chunks.length
      parentNode (treeNode fuel counter (chunks.take left))
        (treeNode fuel (counter + left) (chunks.drop left))

def digest (message : List UInt8) : List UInt8 :=
  let chunks := parts chunkSize message.length message
  bytesOfWords ((treeNode chunks.length 0 chunks).compress root)

end Chronomata.Random.Blake3
