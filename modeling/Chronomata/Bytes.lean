-- Texts as bytes, and numbers as little-endian bytes.
namespace Chronomata.Text

def utf8 (text : String) : List UInt8 := text.toUTF8.toList

def ofUtf8? (bytes : List UInt8) : Option String := String.fromUTF8? ⟨bytes.toArray⟩

end Chronomata.Text

namespace Chronomata.Random

def littleEndian : Nat → Nat → List UInt8
  | 0, _ => []
  | count + 1, value => UInt8.ofNat value :: littleEndian count (value / 256)

def ofLittleEndian : List UInt8 → Nat
  | [] => 0
  | byte :: rest => byte.toNat + 256 * ofLittleEndian rest

theorem littleEndian_length (count value : Nat) : (littleEndian count value).length = count := by
  induction count generalizing value with
  | zero => rfl
  | succ count ih => simp [littleEndian, ih]

theorem ofLittleEndian_littleEndian (count value : Nat) :
    ofLittleEndian (littleEndian count value) = value % Nat.pow 256 count := by
  induction count generalizing value with
  | zero => exact (Nat.mod_one value).symm
  | succ count ih =>
    have room : Nat.pow 256 (count + 1) = 256 * Nat.pow 256 count := Nat.mul_comm ..
    rw [littleEndian, ofLittleEndian, ih, room, Nat.mod_mul]
    rfl

-- Words of 32 bits from bytes, four to a word, least byte first; missing bytes count as zero.
def wordsOfBytes : Nat → List UInt8 → List UInt32
  | 0, _ => []
  | count + 1, bytes =>
    UInt32.ofNat (ofLittleEndian (bytes.take 4)) :: wordsOfBytes count (bytes.drop 4)

def bytesOfWords (words : List UInt32) : List UInt8 :=
  words.flatMap fun w => littleEndian 4 w.toNat

-- A word with its bits moved down, those that leave at the bottom coming back at the top.
def rotateRight (word count : UInt32) : UInt32 := word >>> count ||| word <<< (32 - count)

-- A word with its bits moved up, those that leave at the top coming back at the bottom.
def rotateLeft (word count : UInt32) : UInt32 := word <<< count ||| word >>> (32 - count)

end Chronomata.Random
