import Chronomata.Host
import Mathlib.Data.List.DropRight

-- The literal host takes what stands behind a negation for a name, whatever it says. So a guard and its
-- negation are opposite unless the guard is a literal.
namespace Chronomata

namespace Text

theorem trimRight_cons (c : Char) (rest : List Char) :
    trimRight (c :: rest) =
      if isBlank c = true ∧ trimRight rest = [] then [] else c :: trimRight rest := by
  unfold trimRight
  rw [List.reverse_cons, List.dropWhile_append]
  cases remains : rest.reverse.dropWhile isBlank with
  | nil => cases solid : isBlank c <;> simp [solid]
  | cons last others => simp

theorem trimRight_solid {c : Char} (solid : isBlank c = false) (rest : List Char) :
    trimRight (c :: rest) = c :: trimRight rest := by
  rw [trimRight_cons, if_neg (by simp [solid])]

theorem trimLeft_solid {c : Char} (solid : isBlank c = false) (rest : List Char) :
    trimLeft (c :: rest) = c :: rest :=
  List.dropWhile_cons_of_neg (by simp [solid])

theorem trimRight_trimRight (text : List Char) : trimRight (trimRight text) = trimRight text :=
  List.rdropWhile_idempotent isBlank text

-- The blanks behind a text may be dropped before those in front of it.
theorem trimmed_trimRight (text : List Char) :
    trimRight (trimLeft (trimRight text)) = trimRight (trimLeft text) := by
  induction text with
  | nil => rfl
  | cons c rest ih =>
    cases blank : isBlank c with
    | false =>
      rw [trimRight_solid blank, trimLeft_solid blank, trimLeft_solid blank, trimRight_solid blank,
        trimRight_solid blank, trimRight_trimRight]
    | true =>
      have skipped : ∀ more, trimLeft (c :: more) = trimLeft more := fun more =>
        List.dropWhile_cons_of_pos blank
      rw [skipped, ← ih, trimRight_cons]
      by_cases none : trimRight rest = []
      · rw [if_pos ⟨blank, none⟩, none]
      · rw [if_neg fun both => none both.2, skipped]

theorem trim_solid {c : Char} (solid : isBlank c = false) (rest : List Char) :
    trim (String.ofList (c :: rest)) = String.ofList (c :: trimRight rest) := by
  rw [trim, String.toList_ofList, trimLeft_solid solid, trimRight_solid solid]

end Text

namespace Literal

-- What a literal says.
def literal? (text : String) : Option Bool :=
  if text = "true" then some true else if text = "false" then some false else none

variable {condition : String} {context : Context}

-- A name that is no literal is looked up.
theorem evaluate_of_isName (named : isName (Text.trim condition) = true) :
    evaluate condition context = .ok ((literal? (Text.trim condition)).getD
      (lookup (Text.trim condition) context)) := by
  unfold evaluate literal?
  generalize Text.trim condition = text at named
  dsimp only
  by_cases yes : text = "true"
  · rw [if_pos (.inr yes), if_pos yes]
    rfl
  · by_cases no : text = "false"
    · rw [if_neg (by simp [no]), if_pos no, if_neg yes, if_pos no]
      rfl
    · have filled : text ≠ "" := by
        rintro rfl
        exact absurd named (by decide)
      rw [if_neg (not_or.mpr ⟨filled, yes⟩), if_neg no, if_neg yes, if_neg no]
      split
      · rename_i rest listed
        have first : isName text = false := by
          rw [isName, listed]
          rfl
        cases first.symm.trans named
      · rw [if_pos named]
        rfl

-- What stands behind a negation has to be a name, and it is looked up even if it is a literal.
theorem evaluate_negated (condition : String) (context : Context) :
    evaluate ("!" ++ condition) context =
      if isName (Text.trim condition) then .ok (!lookup (Text.trim condition) context)
      else .error ⟨"!" ++ condition, "unsupported expression"⟩ := by
  have whole : Text.trim ("!" ++ condition) =
      String.ofList ('!' :: Text.trimRight condition.toList) := by
    rw [← String.ofList_toList (s := "!" ++ condition), String.toList_append]
    exact Text.trim_solid (by decide) condition.toList
  have behind : Text.trim (String.ofList (Text.trimRight condition.toList)) = Text.trim condition := by
    rw [Text.trim, String.toList_ofList, Text.trimmed_trimRight, Text.trim]
  have differs : ∀ text : String, text.toList.head? ≠ some '!' →
      String.ofList ('!' :: Text.trimRight condition.toList) ≠ text := by
    rintro text other rfl
    rw [String.toList_ofList] at other
    exact other rfl
  unfold evaluate
  simp only [whole, differs "" (by decide), differs "true" (by decide), differs "false" (by decide),
    or_self, if_false, String.toList_ofList, behind]
  rfl

-- A guard and its negation are both answered exactly when the guard is a name. Then they are opposite, unless it
-- is a literal that says something else than the value that goes by its name.
theorem negated_exact (condition : String) (context : Context) :
    ((∃ plain negated, Host.literal.evaluate condition context = .ok plain ∧
      Host.literal.evaluate ("!" ++ condition) context = .ok negated) ↔
        isName (Text.trim condition) = true) ∧
      ∀ plain negated, Host.literal.evaluate condition context = .ok plain →
        Host.literal.evaluate ("!" ++ condition) context = .ok negated →
          (negated = !plain ↔ ∀ value, literal? (Text.trim condition) = some value →
            lookup (Text.trim condition) context = value) := by
  have host : Host.literal.evaluate = evaluate := rfl
  rw [host, evaluate_negated]
  by_cases named : isName (Text.trim condition) = true
  · rw [evaluate_of_isName named, if_pos named]
    refine ⟨⟨fun _ => named, fun _ => ⟨_, _, rfl, rfl⟩⟩, ?_⟩
    rintro plain negated ⟨⟩ ⟨⟩
    cases literal? (Text.trim condition) with
    | none => simp
    | some value => simp
  · rw [if_neg named]
    refine ⟨⟨?_, fun contrary => absurd contrary named⟩, ?_⟩
    · rintro ⟨_, _, _, refused⟩
      cases refused
    · intro _ _ _ refused
      cases refused

-- An input that hides a variable of its name, and nothing that is called like a literal.
def shadowed : Context where
  automaton := "door"
  state := "shut"
  cycle := 0
  inputs := SortedMap.empty.insert "armed" (.bool true)
  locals := SortedMap.empty.insert "armed" (.int 0)

-- The name is opposite to its negation, and the literal is not.
theorem negated_exact_shadowed :
    Host.literal.evaluate " armed " shadowed = .ok true ∧
      Host.literal.evaluate "! armed " shadowed = .ok (!true) ∧
      Host.literal.evaluate "true" shadowed = .ok true ∧
      Host.literal.evaluate "!true" shadowed = .ok true ∧ lookup "true" shadowed ≠ true := by
  obtain ⟨answered, opposite⟩ := negated_exact " armed " shadowed
  obtain ⟨plain, negated, holds, fails⟩ := answered.mpr (by decide +kernel)
  have armed : Host.literal.evaluate " armed " shadowed = .ok true := by decide +kernel
  have differs : negated = !plain := by
    refine (opposite plain negated holds fails).mpr ?_
    intro value said
    have none : literal? (Text.trim " armed ") = .none := by decide +kernel
    cases none.symm.trans said
  cases holds.symm.trans armed
  rw [differs] at fails
  have yes : Host.literal.evaluate "true" shadowed = .ok true := by decide +kernel
  have no : Host.literal.evaluate "!true" shadowed = .ok true := by decide +kernel
  refine ⟨armed, fails, yes, no, ?_⟩
  intro said
  have contrary := ((negated_exact "true" shadowed).2 true true yes no).mpr fun value literal => by
    have same : literal? (Text.trim "true") = some true := by decide +kernel
    cases literal.symm.trans same
    exact said
  cases contrary

end Literal

end Chronomata
