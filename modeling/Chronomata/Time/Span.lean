import Chronomata.Decimal.Basic
import Chronomata.Source

-- Lengths of time to the nanosecond.
namespace Chronomata

structure Span where
  seconds : UInt64
  nanoseconds : Nat
  nanoseconds_bounded : nanoseconds < 1000000000
  deriving Repr

namespace Span

instance : DecidableEq Span := fun a b =>
  decidable_of_iff (a.seconds = b.seconds ∧ a.nanoseconds = b.nanoseconds) <| by
    cases a
    cases b
    simp

-- A length that has both parts. Whole seconds among the nanoseconds are carried over; there is none
-- when they do not fit.
def of? (seconds nanoseconds : Nat) : Option Span :=
  let carried := seconds + nanoseconds / 1000000000
  if carried < UInt64.size then
    some ⟨UInt64.ofNat carried, nanoseconds % 1000000000, Nat.mod_lt _ (by decide)⟩
  else none

def ofMilliseconds (count : UInt64) : Span :=
  ⟨count / 1000, (count.toNat % 1000) * 1000000, by omega⟩

def toNanoseconds (s : Span) : Nat := s.seconds.toNat * 1000000000 + s.nanoseconds

def isZero (s : Span) : Bool := s.toNanoseconds = 0

def toSeconds (s : Span) : Float := s.seconds.toFloat + s.nanoseconds.toFloat / 1000000000.0

-- The length of a number of seconds to the nearest nanosecond, ties to even. There is none for a
-- negative or an infinite number, or one that does not fit.
def ofSeconds? (seconds : Float) : Option Span := do
  let b ← Decimal.binary? seconds
  if b.negative ∧ b.mantissa ≠ 0 then none
  else
    let scaled := b.mantissa * 1000000000
    of? 0 (if 0 ≤ b.exponent then scaled * Nat.pow 2 b.exponent.toNat
      else Decimal.roundQuotient .even scaled (Nat.pow 2 b.exponent.natAbs))

def toJson (s : Span) : Json :=
  .record [("secs", .natural s.seconds.toNat), ("nanos", .natural s.nanoseconds)]

-- Read a length. Both parts must be there, and nothing else.
def read? (node : Json) : Option Span := do
  let names := ["secs", "nanos"]
  let fields ← Source.allFields? names node
  if ¬ fields.all (fun field => names.contains field.1) then none
  else
    let seconds ← fields.get? "secs" Source.word64?
    let nanoseconds ← fields.get? "nanos" (Source.bounded? 0 (UInt32.size - 1))
    of? seconds.toNat nanoseconds.toNat

end Span

end Chronomata
