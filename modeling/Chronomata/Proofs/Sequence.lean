-- Steps that are taken one after the other, and what they tell on the way.
namespace Chronomata

universe u v w

variable {α : Type u} {β : Type v} {γ : Type w}

-- One step for each item, and what all items tell behind what was told before.
theorem foldl_tells (Tells : List γ → β → Prop) {step : β → α → β} {told : α → List γ}
    (items : List α)
    (each : ∀ {before b}, ∀ item ∈ items, Tells before b →
      Tells (before ++ told item) (step b item))
    {before : List γ} {b : β} (start : Tells before b) :
    Tells (before ++ items.flatMap told) (items.foldl step b) := by
  induction items generalizing before b with
  | nil => simpa using start
  | cons head rest ih =>
    rw [List.flatMap_cons, ← List.append_assoc, List.foldl_cons]
    refine ih ?_ (each head List.mem_cons_self start)
    intro before b item member
    exact each item (List.mem_cons_of_mem _ member)

-- What each item tells in the light of the items before it, one after the other.
def telling (tell : List α → α → List β) : List α → List α → List β
  | _, [] => []
  | past, item :: rest => tell past item ++ telling tell (past ++ [item]) rest

theorem telling_concat (tell : List α → α → List β) (past items : List α) (item : α) :
    telling tell past (items ++ [item]) =
      telling tell past items ++ tell (past ++ items) item := by
  induction items generalizing past with
  | nil => simp [telling]
  | cons head rest ih => simp [telling, ih]

end Chronomata
