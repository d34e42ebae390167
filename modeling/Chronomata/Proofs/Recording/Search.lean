import Chronomata.Recording.Ring
import Mathlib.Order.Lattice

-- Looking a number up in a ring: where numbers increase, the answer is the one place where the number
-- stands, however the ring happens to lie in its slots.
namespace Chronomata.Ring

abbrev Increasing (numbers : List UInt64) : Prop := numbers.Pairwise (· < ·)

variable {numbers : List UInt64} {number : UInt64}

theorem Increasing.lt {i j : Nat} {a b : UInt64} (increasing : Increasing numbers) (before : i < j)
    (first : numbers[i]? = some a) (second : numbers[j]? = some b) : a < b := by
  obtain ⟨inside, rfl⟩ := List.getElem?_eq_some_iff.mp first
  obtain ⟨inside', rfl⟩ := List.getElem?_eq_some_iff.mp second
  exact List.pairwise_iff_getElem.mp increasing i j inside inside' before

-- Numbers that increase compare as their places do.
theorem Increasing.lt_iff {i j : Nat} {a b : UInt64} (increasing : Increasing numbers)
    (first : numbers[i]? = some a) (second : numbers[j]? = some b) : a < b ↔ i < j := by
  refine ⟨?_, fun before => increasing.lt before first second⟩
  intro less
  rcases Nat.lt_trichotomy i j with before | rfl | after
  · exact before
  · cases first.symm.trans second
    exact absurd less (UInt64.lt_irrefl _)
  · exact absurd (UInt64.lt_trans less (increasing.lt after second first)) (UInt64.lt_irrefl _)

-- The place of the number stays in what is left to look at until nothing else is left.
theorem search_eq (increasing : Increasing numbers) {place base count : Nat}
    (found : numbers[place]? = some number) (above : base ≤ place) (below : place < base + count)
    (inside : base + count ≤ numbers.length) : search numbers number base count = place := by
  induction count using Nat.strong_induction_on generalizing base with
  | _ count ih =>
    unfold search
    split
    · rename_i many
      obtain ⟨half, halved⟩ : ∃ half, half = count / 2 := ⟨_, rfl⟩
      have within : base + half < numbers.length := by omega
      obtain ⟨middle, present⟩ : ∃ middle, numbers[base + half]? = some middle :=
        ⟨_, List.getElem?_eq_getElem within⟩
      have side := increasing.lt_iff found present
      simp only [← halved, present]
      split
      · rename_i less
        have left := side.mp less
        exact @ih (count - half) (by omega) base above (by omega) (by omega)
      · rename_i notLess
        have right := mt side.mpr notLess
        exact @ih (count - half) (by omega) (base + half) (by omega) (by omega) (by omega)
    · omega

theorem locate?_eq_some {run : List UInt64} (increasing : Increasing run) {place : Nat} :
    locate? run number = some place ↔ run[place]? = some number := by
  unfold locate?
  dsimp only
  constructor
  · intro located
    split_ifs at located with found
    cases located
    exact found
  · intro found
    have inside := (List.getElem?_eq_some_iff.mp found).1
    have reached : search run number 0 run.length = place :=
      search_eq increasing found (Nat.zero_le _) (by omega) (by omega)
    rw [reached, if_pos found]

-- Looking only in the run on the number's side of the first newer number loses nothing.
theorem position?_eq_some {r : Ring} (increasing : Increasing r.numbers) {place : Nat} :
    r.position? number = some place ↔ r.numbers[place]? = some number := by
  have older : ∀ place, locate? (r.numbers.take r.reach) number = some place ↔ _ :=
    fun place => locate?_eq_some (List.Pairwise.take increasing)
  have newer : ∀ place, locate? (r.numbers.drop r.reach) number = some place ↔ _ :=
    fun place => locate?_eq_some (List.Pairwise.drop increasing)
  have whole := List.take_append_drop r.reach r.numbers
  unfold position?
  dsimp only
  generalize r.numbers.take r.reach = first at *
  generalize r.numbers.drop r.reach = second at *
  rw [← whole] at increasing ⊢
  cases second with
  | nil => simpa using older place
  | cons head rest =>
    have middle : (first ++ head :: rest)[first.length]? = some head := by simp
    simp only [List.head?_cons]
    split_ifs with same less
    · subst same
      constructor
      · rintro ⟨⟩
        exact middle
      · intro found
        have notBefore := mt (increasing.lt_iff found middle).mpr (UInt64.lt_irrefl _)
        have notAfter := mt (increasing.lt_iff middle found).mpr (UInt64.lt_irrefl _)
        congr
        omega
    · rw [older]
      constructor
      · intro found
        rwa [List.getElem?_append_left (List.getElem?_eq_some_iff.mp found).1]
      · intro found
        have before := (increasing.lt_iff found middle).mp less
        rwa [List.getElem?_append_left before] at found
    · have greater : head < number :=
        UInt64.lt_of_le_of_ne (UInt64.not_lt.mp less) (Ne.symm same)
      simp only [Option.map_eq_some_iff, newer]
      constructor
      · rintro ⟨later, found, rfl⟩
        rwa [List.getElem?_append_right (Nat.le_add_right _ _), Nat.add_sub_cancel_left]
      · intro found
        have after := (increasing.lt_iff middle found).mp greater
        rw [List.getElem?_append_right (Nat.le_of_lt after)] at found
        exact ⟨_, found, Nat.add_sub_cancel' (Nat.le_of_lt after)⟩

end Chronomata.Ring
