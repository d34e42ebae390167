-- Maps kept in strictly increasing key order. A map has one representation, so two maps that answer
-- every look-up alike are equal, and the order in which entries are listed is the order of the keys.
namespace Chronomata

universe u v w

variable {κ : Type u} {α : Type v} {β : Type w} [Ord κ]

abbrev KeysIncrease (entries : List (κ × α)) : Prop :=
  entries.Pairwise fun a b => compare a.1 b.1 = .lt

structure SortedMap (κ : Type u) (α : Type v) [Ord κ] where
  entries : List (κ × α)
  increasing : KeysIncrease entries
  deriving DecidableEq

namespace Entries

def find? (key : κ) : List (κ × α) → Option α
  | [] => none
  | (k, v) :: rest => match compare key k with
    | .eq => some v
    | _ => find? key rest

-- Put a value under a key, before the first greater key, replacing the value it had.
def insert (key : κ) (value : α) : List (κ × α) → List (κ × α)
  | [] => [(key, value)]
  | (k, v) :: rest => match compare key k with
    | .lt => (key, value) :: (k, v) :: rest
    | .eq => (key, value) :: rest
    | .gt => (k, v) :: insert key value rest

def erase (key : κ) (entries : List (κ × α)) : List (κ × α) :=
  entries.filter fun e => compare key e.1 != .eq

-- Every key of the result is the inserted one or was there before.
theorem key_of_mem_insert {key : κ} {value : α} {entries : List (κ × α)} {e : κ × α}
    (member : e ∈ insert key value entries) : e = (key, value) ∨ e ∈ entries := by
  induction entries with
  | nil => simpa [insert] using member
  | cons head rest ih =>
    obtain ⟨k, v⟩ := head
    unfold insert at member
    split at member <;> simp only [List.mem_cons] at member ⊢
    · exact member
    · rcases member with first | rest
      · exact .inl first
      · exact .inr (.inr rest)
    · rcases member with first | rest
      · exact .inr (.inl first)
      · rcases ih rest with same | there
        · exact .inl same
        · exact .inr (.inr there)

theorem insert_increasing [Std.TransOrd κ] [Std.LawfulEqOrd κ] (key : κ) (value : α)
    {entries : List (κ × α)} (increasing : KeysIncrease entries) :
    KeysIncrease (insert key value entries) := by
  induction entries with
  | nil => simp [insert, KeysIncrease]
  | cons head rest ih =>
    obtain ⟨k, v⟩ := head
    obtain ⟨below, tail⟩ := List.pairwise_cons.mp increasing
    unfold insert
    split
    · rename_i less
      refine List.pairwise_cons.mpr ⟨?_, increasing⟩
      intro e member
      rcases List.mem_cons.mp member with rfl | member
      · exact less
      · exact Std.TransCmp.lt_trans less (below e member)
    · rename_i same
      have equal : key = k := Std.LawfulEqCmp.eq_of_compare same
      subst equal
      exact List.pairwise_cons.mpr ⟨below, tail⟩
    · rename_i greater
      refine List.pairwise_cons.mpr ⟨?_, ih tail⟩
      intro e member
      rcases key_of_mem_insert member with rfl | there
      · exact Std.OrientedCmp.gt_iff_lt.mp greater
      · exact below e there

end Entries

namespace SortedMap

def empty : SortedMap κ α := ⟨[], .nil⟩

instance : EmptyCollection (SortedMap κ α) := ⟨empty⟩
instance : Inhabited (SortedMap κ α) := ⟨empty⟩

def get? (m : SortedMap κ α) (key : κ) : Option α := Entries.find? key m.entries

def contains (m : SortedMap κ α) (key : κ) : Bool := (m.get? key).isSome

def keys (m : SortedMap κ α) : List κ := m.entries.map (·.1)

def values (m : SortedMap κ α) : List α := m.entries.map (·.2)

def size (m : SortedMap κ α) : Nat := m.entries.length

def isEmpty (m : SortedMap κ α) : Bool := m.entries.isEmpty

def erase (m : SortedMap κ α) (key : κ) : SortedMap κ α :=
  ⟨Entries.erase key m.entries, m.increasing.filter _⟩

def filter (m : SortedMap κ α) (keep : κ → α → Bool) : SortedMap κ α :=
  ⟨m.entries.filter fun e => keep e.1 e.2, m.increasing.filter _⟩

def map (m : SortedMap κ α) (f : κ → α → β) : SortedMap κ β :=
  ⟨m.entries.map fun e => (e.1, f e.1 e.2), List.pairwise_map.mpr m.increasing⟩

def adjust (m : SortedMap κ α) (key : κ) (f : α → α) : SortedMap κ α :=
  m.map fun k v => if compare key k = .eq then f v else v

variable [Std.TransOrd κ] [Std.LawfulEqOrd κ]

def insert (m : SortedMap κ α) (key : κ) (value : α) : SortedMap κ α :=
  ⟨Entries.insert key value m.entries, Entries.insert_increasing key value m.increasing⟩

-- Put a value under a key that has none; an earlier value stays.
def insertNew (m : SortedMap κ α) (key : κ) (value : α) : SortedMap κ α :=
  if m.contains key then m else m.insert key value

def insertAll (m : SortedMap κ α) (entries : List (κ × α)) : SortedMap κ α :=
  entries.foldl (fun m e => m.insert e.1 e.2) m

def ofEntries (entries : List (κ × α)) : SortedMap κ α := (empty : SortedMap κ α).insertAll entries

end SortedMap

namespace Entries

variable [Std.LawfulEqOrd κ]

theorem find?_insert_self (key : κ) (value : α) (entries : List (κ × α)) :
    find? key (insert key value entries) = some value := by
  induction entries with
  | nil => simp [insert, find?, Std.ReflCmp.compare_self]
  | cons head rest ih =>
    obtain ⟨k, v⟩ := head
    unfold insert
    split
    · simp [find?, Std.ReflCmp.compare_self]
    · simp [find?, Std.ReflCmp.compare_self]
    · rename_i greater
      simp [find?, greater, ih]

theorem find?_insert_ne {key other : κ} (ne : compare other key ≠ .eq) (value : α)
    (entries : List (κ × α)) : find? other (insert key value entries) = find? other entries := by
  induction entries with
  | nil =>
    unfold insert find?
    cases got : compare other key <;> simp_all [find?]
  | cons head rest ih =>
    obtain ⟨k, v⟩ := head
    unfold insert
    split
    · cases got : compare other key <;> simp_all [find?]
    · rename_i same
      have equal : key = k := Std.LawfulEqCmp.eq_of_compare same
      subst equal
      cases got : compare other key <;> simp_all [find?]
    · simp only [find?, ih]

end Entries

namespace SortedMap

@[simp] theorem get?_empty (key : κ) : (empty : SortedMap κ α).get? key = none := rfl

variable [Std.TransOrd κ] [Std.LawfulEqOrd κ]

@[simp] theorem get?_insert_self (m : SortedMap κ α) (key : κ) (value : α) :
    (m.insert key value).get? key = some value :=
  Entries.find?_insert_self key value m.entries

theorem get?_insert_ne (m : SortedMap κ α) {key other : κ} (ne : other ≠ key) (value : α) :
    (m.insert key value).get? other = m.get? other :=
  Entries.find?_insert_ne (fun same => ne (Std.LawfulEqCmp.eq_of_compare same)) value m.entries

end SortedMap

-- Sets are maps that keep nothing under their keys.
abbrev SortedSet (κ : Type u) [Ord κ] := SortedMap κ Unit

namespace SortedSet

def toList (s : SortedSet κ) : List κ := s.keys

variable [Std.TransOrd κ] [Std.LawfulEqOrd κ]

def add (s : SortedSet κ) (element : κ) : SortedSet κ := SortedMap.insert s element ()

def ofList (elements : List κ) : SortedSet κ := elements.foldl add SortedMap.empty

end SortedSet

end Chronomata
