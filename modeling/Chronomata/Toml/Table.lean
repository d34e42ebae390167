-- Tables of a configuration. A table is written once: by a header, in braces, or bit by bit under keys with
-- points; one on the way to another may still be given a header.
namespace Chronomata.Toml

inductive Origin where
  | headed
  | passed
  | dotted
  | braced
  deriving DecidableEq, Repr

inductive Item where
  | text (value : String)
  | integer (value : Int)
  | emptyList
  | table (origin : Origin) (entries : List (String × Item))

abbrev Entries := List (String × Item)

namespace Entries

def set (entries : Entries) (key : String) (item : Item) : Entries :=
  entries.filter (·.1 != key) ++ [(key, item)]

-- Change the table at the end of a path. Tables that are missing on the way are made, `made` says
-- of which origin. Tables in braces are not entered, and by points only tables that have no header.
def descend (made : Origin) (change : Origin → Entries → Option Entries) :
    List String → Origin → Entries → Option Entries
  | [], origin, entries => change origin entries
  | key :: path, _, entries => do
    let (origin, inner) ← match entries.lookup key with
      | none => some (made, [])
      | some (.table origin inner) =>
        if origin = .braced ∨ (made = .dotted ∧ origin = .headed) then none
        else some (origin, inner)
      | some _ => none
    let inner ← descend made change path origin inner
    some (entries.set key (.table origin inner))

-- Add an entry under a key with points. It may not be there yet, and points lead only to tables
-- that points have made.
def define (path : List String) (item : Item) (entries : Entries) : Option Entries := do
  let key ← path.getLast?
  let way := path.dropLast
  descend .dotted (fun origin entries =>
    if (entries.lookup key).isSome ∨ (way ≠ [] ∧ origin ≠ .dotted) then none
    else some (entries.set key item)) way .headed entries

-- Start a table under a header. It may stand on the way to another one, but not be there in any
-- other way.
def head (path : List String) (entries : Entries) : Option Entries := do
  let key ← path.getLast?
  descend .passed (fun _ entries =>
    match entries.lookup key with
    | none => some (entries.set key (.table .headed []))
    | some (.table .passed inner) => some (entries.set key (.table .headed inner))
    | some _ => none) path.dropLast .headed entries

end Entries

end Chronomata.Toml
