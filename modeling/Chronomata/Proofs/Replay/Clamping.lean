import Chronomata.Proofs.Recording.Retention

-- Positions as whole numbers. A step is made in signed words: a position that no such word holds is taken for
-- the last one before.
namespace Chronomata

theorem saturated_eq (value : Int) :
    (saturated value).toInt = max (-2 ^ 63) (min value (2 ^ 63 - 1)) := by
  have least : Int64.minValue.toInt = -2 ^ 63 := by decide
  have most : Int64.maxValue.toInt = 2 ^ 63 - 1 := by decide
  rw [saturated, Int64.toInt_ofInt_of_le] <;> rw [least, most] <;> omega

namespace Session

-- The place of a recording that is nearest to a whole number.
def clamped (last : Nat) (target : Int) : Nat := (max 0 (min target last)).toNat

-- Where a step leads when position and sum are held in signed words.
def reached (position : Nat) (delta : Int64) : Int :=
  min (min position (2 ^ 63 - 1) + delta.toInt) (2 ^ 63 - 1)

theorem reached_le (position : Nat) (delta : Int64) :
    reached position delta ≤ position + delta.toInt := by
  unfold reached
  omega

-- Two numbers are clamped to one place when both lie beyond the same end.
theorem clamped_eq_iff {last : Nat} {target later : Int} (before : target ≤ later) :
    clamped last target = clamped last later ↔
      target = later ∨ last ≤ target ∨ later ≤ 0 ∨ last = 0 := by
  unfold clamped
  omega

variable {s : Session} {last : Nat}

theorem seek_eq_clamped (ends : s.lastIndex? = some last) (target : Int64) :
    s.seek target = clamped last target.toInt := by
  unfold seek clamped
  simp only [ends, Int64.le_iff_toInt_le, Int64.toInt_zero]
  split_ifs <;> omega

theorem step_eq_clamped (ends : s.lastIndex? = some last) (position : Nat) (delta : Int64) :
    s.step position delta = clamped last (reached position delta) := by
  have least := delta.le_toInt
  rw [step, seek_eq_clamped ends, saturated_eq, Keeps.saturated_toInt]
  unfold clamped reached
  omega

-- A step shows another place than the true sum exactly when words cut it down, what is left of it comes before
-- the last place, and the true sum leads beyond the first one.
theorem step_eq_iff (ends : s.lastIndex? = some last) (position : Nat) (delta : Int64) :
    s.step position delta = clamped last (position + delta.toInt) ↔
      ¬ (reached position delta < position + delta.toInt ∧ reached position delta < last ∧
        0 < position + delta.toInt ∧ 0 < last) := by
  have behind := reached_le position delta
  rw [step_eq_clamped ends, clamped_eq_iff behind]
  omega

-- Among positions and places of 63 bits no step is cut short.
theorem step_exact (ends : s.lastIndex? = some last) (short : last < 2 ^ 63) {position : Nat}
    (held : position < 2 ^ 63) (delta : Int64) :
    s.step position delta = clamped last (position + delta.toInt) := by
  refine (step_eq_iff ends position delta).mpr ?_
  rintro ⟨cut, inside, _, _⟩
  unfold reached at cut inside
  omega

-- Seeking is exact for every target, and stepping is for every step wherever places and positions are held in
-- 63 bits. From positions beyond, which have 64 bits at most, it is exact unless the step is cut short.
theorem stepped_exact (ends : s.lastIndex? = some last) :
    (∀ target : Int64, s.seek target = clamped last target.toInt) ∧
      (∀ (position : Nat) (delta : Int64),
        s.step position delta = clamped last (reached position delta) ∧
          (s.step position delta = clamped last (position + delta.toInt) ↔
            ¬ (reached position delta < position + delta.toInt ∧ reached position delta < last ∧
              0 < position + delta.toInt ∧ 0 < last))) ∧
      (last < 2 ^ 63 → ∀ (position : Nat) (delta : Int64), position < 2 ^ 63 →
        s.step position delta = clamped last (position + delta.toInt)) := by
  refine ⟨seek_eq_clamped ends, ?_, ?_⟩
  · intro position delta
    exact ⟨step_eq_clamped ends position delta, step_eq_iff ends position delta⟩
  · intro short position delta held
    exact step_exact ends short held delta

-- Three frames. From the last unsigned word, the furthest step back leads to a place far behind them, but it is
-- made from the last signed word and comes to stand in front of them.
def trio : Session :=
  let append (s : Session) : Session := (s.append .empty .epoch).1
  append (append (append (.new ⟨7⟩ ⟨.ofMilliseconds 10, 10⟩ .epoch)))

theorem stepped_exact_trio :
    trio.lastIndex? = some 2 ∧ trio.seek (-4) = 0 ∧ trio.step 0 2 = 2 ∧
      trio.step (2 ^ 64 - 1) .minValue = 0 ∧ clamped 2 ((2 ^ 64 - 1 : Nat) + Int64.minValue.toInt) = 2 ∧
      trio.step (2 ^ 64 - 1) .minValue ≠ clamped 2 ((2 ^ 64 - 1 : Nat) + Int64.minValue.toInt) := by
  have ends : trio.lastIndex? = some 2 := by decide
  obtain ⟨seeks, steps, exact⟩ := stepped_exact ends
  refine ⟨ends, seeks (-4), exact (by decide) 0 2 (by decide), (steps _ .minValue).1, by decide, ?_⟩
  exact mt (steps (2 ^ 64 - 1) .minValue).2.mp (not_not.mpr (by decide))

end Session

end Chronomata
