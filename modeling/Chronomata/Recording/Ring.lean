import Chronomata.Snapshot.Basic

-- The newest frames of a recording, up to a capacity. New frames take the slots in turn, so the frames are at
-- most two runs, and a frame is looked up in one of them by halving.
namespace Chronomata

structure Ring where
  capacity : UInt64
  frames : List Frame
  evicted : UInt64
  deriving DecidableEq

namespace Ring

-- A ring without frames. It can hold at least one.
def withCapacity (capacity : UInt64) : Ring := ⟨max capacity 1, [], 0⟩

def size (r : Ring) : Nat := r.frames.length

def isEmpty (r : Ring) : Bool := r.frames.isEmpty

-- Add the newest frame. When there is no room for it, the oldest frame is dropped and given back.
def push (r : Ring) (frame : Frame) : Ring × Option Frame :=
  match r.frames ++ [frame] with
  | oldest :: rest =>
    if r.capacity.toNat < rest.length + 1 then
      ({ r with frames := rest, evicted := r.evicted + 1 }, some oldest)
    else ({ r with frames := oldest :: rest }, none)
  | [] => (r, none)

-- The frame at an index; the oldest is at zero.
def get? (r : Ring) (index : Nat) : Option Frame := r.frames[index]?

def first? (r : Ring) : Option Frame := r.frames.head?

def last? (r : Ring) : Option Frame := r.frames.getLast?

def numbers (r : Ring) : List UInt64 := r.frames.map (·.number)

-- The last of `count` numbers from `base` on that does not exceed a number, or `base` itself.
def search (numbers : List UInt64) (number : UInt64) (base count : Nat) : Nat :=
  if _h : 1 < count then
    let half := count / 2
    let base := match numbers[base + half]? with
      | some found => if number < found then base else base + half
      | none => base
    search numbers number base (count - half)
  else base
termination_by count
decreasing_by omega

def locate? (run : List UInt64) (number : UInt64) : Option Nat :=
  let index := search run number 0 run.length
  if run[index]? = some number then some index else none

def slots (r : Ring) : Nat := max (2 * r.capacity.toNat) 4

-- How many frames there is room for from the oldest one up to the last slot. Every frame that is
-- dropped leaves the oldest one a slot further.
def reach (r : Ring) : Nat := r.slots - r.evicted.toNat % r.slots

-- Where the frame with a number stands, if the ring holds it. The first number of the newer run
-- says which run to look at.
def position? (r : Ring) (number : UInt64) : Option Nat :=
  let older := r.numbers.take r.reach
  let newer := r.numbers.drop r.reach
  match newer.head? with
  | none => locate? older number
  | some first =>
    if number = first then some older.length
    else if number < first then locate? older number
    else (locate? newer number).map (older.length + ·)

end Ring

end Chronomata
