import Chronomata.Proofs.Text.Bytes
import Chronomata.Random.Seed
import Mathlib.Algebra.Group.Nat.Defs

-- The message that a seed is the digest of says which automaton, state and cycle it is for, so two choices
-- share their seed only when the digest takes two messages to the same bytes.
namespace Chronomata

namespace Random

theorem littleEndian_append_inj {count first second : Nat} {rest rest' : List UInt8}
    (fits : first < 256 ^ count) (fits' : second < 256 ^ count)
    (same : littleEndian count first ++ rest = littleEndian count second ++ rest') :
    first = second ∧ rest = rest' := by
  have lengths : (littleEndian count first).length = (littleEndian count second).length := by
    rw [littleEndian_length, littleEndian_length]
  obtain ⟨words, rests⟩ := List.append_inj same lengths
  refine ⟨?_, rests⟩
  have values := congrArg ofLittleEndian words
  rw [ofLittleEndian_littleEndian, ofLittleEndian_littleEndian] at values
  calc first = first % Nat.pow 256 count := (Nat.mod_eq_of_lt fits).symm
    _ = second % Nat.pow 256 count := values
    _ = second := Nat.mod_eq_of_lt fits'

-- Two messages that the digest does not tell apart.
structure Blake3.Collide (first second : List UInt8) : Prop where
  differ : first ≠ second
  agree : digest first = digest second

end Random

namespace Seed

-- The ids are no longer than a word can count. This is so of every text that fits into memory.
structure Counted (s : Seed) : Prop where
  automaton : s.automaton.utf8ByteSize < UInt64.size
  state : s.state.utf8ByteSize < UInt64.size

theorem lengthPrefixed_eq (text : String) :
    lengthPrefixed text = Random.littleEndian 8 text.utf8ByteSize ++ Text.utf8 text := by
  rw [← Text.utf8_length]
  rfl

-- The length in front of a text says where it ends, whatever follows.
theorem lengthPrefixed_append_inj {first second : String} {rest rest' : List UInt8}
    (counted : first.utf8ByteSize < UInt64.size) (counted' : second.utf8ByteSize < UInt64.size)
    (same : lengthPrefixed first ++ rest = lengthPrefixed second ++ rest') :
    first = second ∧ rest = rest' := by
  rw [lengthPrefixed_eq, lengthPrefixed_eq, List.append_assoc, List.append_assoc] at same
  obtain ⟨sizes, texts⟩ := Random.littleEndian_append_inj counted counted' same
  have lengths : (Text.utf8 first).length = (Text.utf8 second).length := by
    rw [Text.utf8_length, Text.utf8_length, sizes]
  obtain ⟨bytes, rests⟩ := List.append_inj texts lengths
  exact ⟨Text.utf8_injective bytes, rests⟩

theorem message_append_inj {s t : Seed} {rest rest' : List UInt8} (counted : s.Counted)
    (counted' : t.Counted) (same : s.message ++ rest = t.message ++ rest') :
    s = t ∧ rest = rest' := by
  unfold message at same
  simp only [List.append_assoc] at same
  obtain ⟨automata, afterAutomaton⟩ :=
    lengthPrefixed_append_inj counted.automaton counted'.automaton same
  obtain ⟨states, afterState⟩ :=
    lengthPrefixed_append_inj counted.state counted'.state afterAutomaton
  obtain ⟨cycles, rests⟩ :=
    Random.littleEndian_append_inj s.cycle.toNat_lt t.cycle.toNat_lt afterState
  cases s
  cases t
  cases automata
  cases states
  cases UInt64.toNat_inj.mp cycles
  exact ⟨rfl, rests⟩

theorem message_inj {s t : Seed} (counted : s.Counted) (counted' : t.Counted) :
    s.message = t.message ↔ s = t := by
  constructor
  · intro same
    have extended : s.message ++ [] = t.message ++ [] := by rw [same]
    exact (message_append_inj counted counted' extended).1
  · intro same
    rw [same]

-- A message is for one choice, and choices that share a seed are a collision of the digest.
theorem separated_exact {s t : Seed} (counted : s.Counted) (counted' : t.Counted) :
    (s.message = t.message ↔ s = t) ∧
      (s ≠ t → (s.bytes = t.bytes ↔ Random.Blake3.Collide s.message t.message)) := by
  refine ⟨message_inj counted counted', ?_⟩
  intro other
  have differ : s.message ≠ t.message := mt (message_inj counted counted').mp other
  exact ⟨fun shared => ⟨differ, shared⟩, Random.Blake3.Collide.agree⟩

-- Without their lengths the ids of these choices would be the same bytes. Their seeds differ, and so the
-- messages are no collision.
theorem separated_exact_shifted :
    Counted ⟨"né", "t", 7⟩ ∧ Counted ⟨"n", "ét", 7⟩ ∧ "né" ++ "t" = "n" ++ "ét" ∧
      message ⟨"né", "t", 7⟩ ≠ message ⟨"n", "ét", 7⟩ ∧
      ¬ Random.Blake3.Collide (message ⟨"né", "t", 7⟩) (message ⟨"n", "ét", 7⟩) := by
  have counted : Counted ⟨"né", "t", 7⟩ := ⟨by decide, by decide⟩
  have counted' : Counted ⟨"n", "ét", 7⟩ := ⟨by decide, by decide⟩
  have other : Seed.mk "né" "t" 7 ≠ ⟨"n", "ét", 7⟩ := by decide
  have apart : bytes ⟨"né", "t", 7⟩ ≠ bytes ⟨"n", "ét", 7⟩ := by decide +kernel
  obtain ⟨told, collides⟩ := separated_exact counted counted'
  exact ⟨counted, counted', by decide, mt told.mp other, mt (collides other).mpr apart⟩

end Seed

end Chronomata
