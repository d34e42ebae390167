import Chronomata.Sorted.Map
import Mathlib.Data.List.Sort

-- Sorted maps by what they answer: the entries are the look-ups that succeed, and every operation is told
-- by the look-ups that it changes.
namespace Chronomata

universe u v w

variable {κ : Type u} {α : Type v} {β : Type w} [Ord κ]

theorem ne_of_compare_lt [Std.ReflOrd κ] {key other : κ} (before : compare key other = .lt) :
    key ≠ other := by
  rintro rfl
  simp [Std.ReflOrd.compare_self] at before

-- A list in increasing order is told by its members.
theorem eq_of_increasing [Std.TransOrd κ] (place : α → κ) {l m : List α}
    (increasing : l.Pairwise fun a b => compare (place a) (place b) = .lt)
    (increasing' : m.Pairwise fun a b => compare (place a) (place b) = .lt)
    (same : ∀ a, a ∈ l ↔ a ∈ m) : l = m := by
  have irreflexive : Std.Irrefl fun a b : α => compare (place a) (place b) = .lt :=
    ⟨fun a before => ne_of_compare_lt before rfl⟩
  have antisymmetric : Std.Antisymm fun a b : α => compare (place a) (place b) = .lt :=
    ⟨fun a b before after => absurd rfl (ne_of_compare_lt (Std.TransCmp.lt_trans before after))⟩
  exact List.Pairwise.eq_of_mem_iff increasing increasing' same

namespace Entries

theorem find?_map (key : κ) (f : κ → α → β) [Std.LawfulEqOrd κ] (entries : List (κ × α)) :
    find? key (entries.map fun e => (e.1, f e.1 e.2)) = (find? key entries).map (f key) := by
  induction entries with
  | nil => rfl
  | cons head rest ih =>
    obtain ⟨k, v⟩ := head
    simp only [List.map_cons, find?]
    cases order : compare key k with
    | eq => rw [Std.LawfulEqCmp.eq_of_compare order]; rfl
    | lt => exact ih
    | gt => exact ih

theorem mem_of_find? [Std.LawfulEqOrd κ] {key : κ} {value : α} {entries : List (κ × α)}
    (found : find? key entries = some value) : (key, value) ∈ entries := by
  induction entries with
  | nil => cases found
  | cons head rest ih =>
    obtain ⟨k, v⟩ := head
    unfold find? at found
    split at found
    · rename_i same
      cases found
      rw [Std.LawfulEqCmp.eq_of_compare same]
      exact List.mem_cons_self
    · exact List.mem_cons_of_mem _ (ih found)

variable [Std.TransOrd κ]

theorem find?_of_mem {key : κ} {value : α} {entries : List (κ × α)}
    (increasing : KeysIncrease entries) (member : (key, value) ∈ entries) :
    find? key entries = some value := by
  induction entries with
  | nil => cases member
  | cons head rest ih =>
    obtain ⟨k, v⟩ := head
    obtain ⟨below, tail⟩ := List.pairwise_cons.mp increasing
    rcases List.mem_cons.mp member with same | there
    · cases same
      simp [find?, Std.ReflCmp.compare_self]
    · have greater : compare key k = .gt := Std.OrientedCmp.gt_iff_lt.mpr (below _ there)
      simp only [find?, greater]
      exact ih tail there

end Entries

namespace SortedMap

theorem get?_map [Std.LawfulEqOrd κ] (m : SortedMap κ α) (f : κ → α → β) (key : κ) :
    (m.map f).get? key = (m.get? key).map (f key) :=
  Entries.find?_map key f m.entries

theorem values_map (m : SortedMap κ α) (f : κ → α → β) :
    (m.map f).values = m.entries.map fun e => f e.1 e.2 := by
  simp [values, map, List.map_map, Function.comp_def]

theorem map_map {γ : Type*} (m : SortedMap κ α) (f : κ → α → β) (g : κ → β → γ) :
    (m.map f).map g = m.map fun key value => g key (f key value) := by
  simp [map, List.map_map, Function.comp_def]

theorem keys_nodup [Std.ReflOrd κ] (m : SortedMap κ α) : m.keys.Nodup := by
  apply List.pairwise_map.mpr
  exact m.increasing.imp ne_of_compare_lt

variable [Std.LawfulEqOrd κ]

theorem get?_adjust_self (m : SortedMap κ α) (key : κ) (f : α → α) :
    (m.adjust key f).get? key = (m.get? key).map f := by
  simp only [adjust, get?_map, Std.ReflCmp.compare_self, if_true]

theorem get?_adjust_ne (m : SortedMap κ α) {key other : κ} (ne : other ≠ key) (f : α → α) :
    (m.adjust key f).get? other = m.get? other := by
  have different : compare key other ≠ .eq :=
    fun same => ne (Std.LawfulEqCmp.eq_of_compare same).symm
  simp only [adjust, get?_map, if_neg different, Option.map_id']

variable [Std.TransOrd κ]

-- The entries are the successful look-ups.
theorem mem_entries {m : SortedMap κ α} {key : κ} {value : α} :
    (key, value) ∈ m.entries ↔ m.get? key = some value :=
  ⟨Entries.find?_of_mem m.increasing, Entries.mem_of_find?⟩

theorem get?_filter {m : SortedMap κ α} {keep : κ → α → Bool} {key : κ} {value : α} :
    (m.filter keep).get? key = some value ↔ m.get? key = some value ∧ keep key value := by
  rw [← mem_entries, ← mem_entries]
  exact List.mem_filter

theorem get?_erase [DecidableEq κ] (m : SortedMap κ α) (key other : κ) :
    (m.erase key).get? other = if other = key then none else m.get? other := by
  refine Option.ext ?_
  intro value
  rw [← mem_entries]
  show (other, value) ∈ m.entries.filter (fun e => compare key e.1 != .eq) ↔ _
  rw [List.mem_filter, mem_entries, bne_iff_ne, Ne, Std.LawfulEqCmp.compare_eq_iff_eq]
  split
  · rename_i same
    simp [same]
  · rename_i different
    simp [Ne.symm different]

theorem mem_values {m : SortedMap κ α} {value : α} :
    value ∈ m.values ↔ ∃ key, m.get? key = some value := by
  simp only [values, List.mem_map, Prod.exists, exists_eq_right, mem_entries]

theorem mem_keys {m : SortedMap κ α} {key : κ} : key ∈ m.keys ↔ ∃ value, m.get? key = some value := by
  simp only [keys, List.mem_map, Prod.exists, exists_and_right, exists_eq_right, mem_entries]

-- One list of entries for each way to answer look-ups.
theorem ext_get? {m n : SortedMap κ α} (same : ∀ key, m.get? key = n.get? key) : m = n := by
  obtain ⟨entries, increasing⟩ := m
  obtain ⟨entries', increasing'⟩ := n
  congr
  have members : ∀ e, e ∈ entries ↔ e ∈ entries' := by
    rintro ⟨key, value⟩
    have found := @mem_entries _ _ _ _ _ ⟨entries, increasing⟩ key value
    have found' := @mem_entries _ _ _ _ _ ⟨entries', increasing'⟩ key value
    rw [found, found', same key]
  exact eq_of_increasing Prod.fst increasing increasing' members

theorem get?_insert [DecidableEq κ] (m : SortedMap κ α) (key other : κ) (value : α) :
    (m.insert key value).get? other = if other = key then some value else m.get? other := by
  by_cases same : other = key
  · rw [if_pos same, same, get?_insert_self]
  · rw [if_neg same, get?_insert_ne m same]

theorem get?_insertNew [DecidableEq κ] (m : SortedMap κ α) (key other : κ) (value : α) :
    (m.insertNew key value).get? other =
      if other = key then some ((m.get? other).getD value) else m.get? other := by
  unfold insertNew contains
  cases found : m.get? key with
  | none =>
    rw [Option.isSome_none, if_neg Bool.false_ne_true, get?_insert]
    split_ifs with same
    · rw [same, found, Option.getD_none]
    · rfl
  | some there =>
    rw [Option.isSome_some, if_pos rfl]
    split_ifs with same
    · rw [same, found, Option.getD_some]
    · rfl

theorem mem_keys_insert {m : SortedMap κ α} {key other : κ} {value : α} :
    other ∈ (m.insert key value).keys ↔ other = key ∨ other ∈ m.keys := by
  by_cases same : other = key
  · simp [mem_keys, same]
  · simp [mem_keys, same, get?_insert_ne]

-- What is looked up after many entries were put is one of them or was there before.
theorem get?_insertAll {m : SortedMap κ α} {entries : List (κ × α)} {key : κ} {value : α}
    (found : (m.insertAll entries).get? key = some value) :
    (key, value) ∈ entries ∨ m.get? key = some value := by
  induction entries generalizing m with
  | nil => exact .inr found
  | cons head rest ih =>
    rcases ih found with there | before
    · exact .inl (List.mem_cons_of_mem _ there)
    · by_cases same : key = head.1
      · subst same
        rw [get?_insert_self] at before
        cases before
        exact .inl List.mem_cons_self
      · rw [get?_insert_ne m same] at before
        exact .inr before

theorem get?_insertAll_of_absent {m : SortedMap κ α} {entries : List (κ × α)} {key : κ}
    (absent : key ∉ entries.map (·.1)) : (m.insertAll entries).get? key = m.get? key := by
  induction entries generalizing m with
  | nil => rfl
  | cons head rest ih =>
    obtain ⟨other, later⟩ := not_or.mp fun either => absent (List.mem_cons.mpr either)
    exact (ih later).trans (get?_insert_ne m other head.2)

theorem mem_keys_insertAll {m : SortedMap κ α} {entries : List (κ × α)} {key : κ} :
    key ∈ (m.insertAll entries).keys ↔ key ∈ entries.map (·.1) ∨ key ∈ m.keys := by
  induction entries generalizing m with
  | nil => simp [insertAll]
  | cons head rest ih =>
    show key ∈ ((m.insert head.1 head.2).insertAll rest).keys ↔ _
    rw [ih, mem_keys_insert, List.map_cons, List.mem_cons]
    rw [or_left_comm, or_assoc]

theorem get?_ofEntries {entries : List (κ × α)} {key : κ} {value : α}
    (found : (ofEntries entries).get? key = some value) : (key, value) ∈ entries :=
  (get?_insertAll found).resolve_right (by simp)

theorem mem_keys_ofEntries {entries : List (κ × α)} {key : κ} :
    key ∈ (ofEntries entries).keys ↔ key ∈ entries.map (·.1) := by
  rw [ofEntries, mem_keys_insertAll]
  simp [keys, empty]

theorem ofEntries_entries (m : SortedMap κ α) : ofEntries m.entries = m := by
  refine ext_get? ?_
  intro key
  cases found : (ofEntries m.entries).get? key with
  | some value => exact (mem_entries.mp (get?_ofEntries found)).symm
  | none =>
    cases there : m.get? key with
    | none => rfl
    | some value =>
      have member : key ∈ (ofEntries m.entries).keys :=
        mem_keys_ofEntries.mpr (mem_keys.mpr ⟨value, there⟩)
      obtain ⟨other, contrary⟩ := mem_keys.mp member
      cases found.symm.trans contrary

def single (key : κ) (value : α) : SortedMap κ α := empty.insert key value

theorem get?_single (key : κ) (value : α) : (single key value).get? key = some value :=
  get?_insert_self empty key value

theorem map_single (key : κ) (value : α) (f : κ → α → β) :
    (single key value).map f = single key (f key value) := rfl

theorem insert_single (key : κ) (value other : α) :
    (single key value).insert key other = single key other := by
  simp [single, insert, Entries.insert, empty, Std.ReflCmp.compare_self]

theorem adjust_single (key : κ) (value : α) (f : α → α) :
    (single key value).adjust key f = single key (f value) := by
  rw [adjust, map_single, if_pos Std.ReflCmp.compare_self]

end SortedMap

namespace SortedSet

variable [Std.TransOrd κ] [Std.LawfulEqOrd κ]

theorem mem_foldl_add {elements : List κ} {s : SortedSet κ} {element : κ} :
    element ∈ (elements.foldl add s).toList ↔ element ∈ s.toList ∨ element ∈ elements := by
  induction elements generalizing s with
  | nil => simp
  | cons head rest ih =>
    rw [List.foldl_cons, ih, List.mem_cons, ← or_assoc, or_comm (a := element ∈ s.toList)]
    exact or_congr_left SortedMap.mem_keys_insert

theorem mem_ofList {elements : List κ} {element : κ} :
    element ∈ (ofList elements).toList ↔ element ∈ elements := by
  refine mem_foldl_add.trans ?_
  simp [toList, SortedMap.keys, SortedMap.empty]

end SortedSet

end Chronomata
