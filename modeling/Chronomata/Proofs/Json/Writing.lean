import Chronomata.Proofs.Json.Numbers

-- What is written is a layout, on one line as well as indented, so it is read as the document that was
-- written.
namespace Chronomata.Json

-- A document that says what it means: its numbers are numbers, and nothing in it is unreadable.
inductive Readable : Json → Prop where
  | null : Readable .null
  | bool (value : Bool) : Readable (.bool value)
  | number {written : String} {literal : Decimal.Literal} (numeral : Numeral written.toList literal) :
      Readable (.number written)
  | text (value : String) : Readable (.text value)
  | list {items : List Json} (each : ∀ item ∈ items, Readable item) : Readable (.list items)
  | record {members : List (String × Json)} (each : ∀ m ∈ members, Readable m.2) :
      Readable (.record members)

theorem Readable.natural (value : Nat) : Readable (.natural value) := .number (numeral_repr value)

theorem Readable.integer (value : Int) : Readable (.integer value) := by
  cases value with
  | ofNat value => exact .natural value
  | negSucc value => exact .number (numeral_minus_repr (value + 1))

theorem items_write {first : Json} {rest : List Json} (shown : Layout first (write first))
    (each : ∀ item ∈ rest, Layout item (write item)) :
    Items (first :: rest) (write first ++ writeItems rest) := by
  induction rest generalizing first with
  | nil => simpa [writeItems] using Items.last .nil shown .nil
  | cons item rest ih =>
    have later := ih (each item List.mem_cons_self)
      fun other member => each other (List.mem_cons_of_mem _ member)
    simpa [writeItems] using Items.more .nil shown .nil later

theorem members_write (key : String) {value : Json} {rest : List (String × Json)}
    (shown : Layout value (write value)) (each : ∀ m ∈ rest, Layout m.2 (write m.2)) :
    Members ((key, value) :: rest) (writeText key ++ ':' :: (write value ++ writeMembers rest)) := by
  induction rest generalizing key value with
  | nil => simpa [writeMembers] using Members.last key .nil .nil shown .nil
  | cons member rest ih =>
    have later := ih member.1 (each member List.mem_cons_self)
      fun other there => each other (List.mem_cons_of_mem _ there)
    simpa [writeMembers] using Members.more key .nil .nil shown .nil later

theorem Readable.write_layout {j : Json} (readable : Readable j) : Layout j (write j) := by
  induction readable with
  | null => simpa [write] using Layout.null
  | bool value =>
    cases value with
    | true => simpa [write] using Layout.yes
    | false => simpa [write] using Layout.no
  | number numeral => simpa [write] using Layout.number numeral
  | text value => simpa [write] using Layout.text value
  | @list items each ih =>
    cases items with
    | nil => simpa [write] using Layout.emptyList .nil
    | cons first rest =>
      have inside := items_write (ih first List.mem_cons_self)
        fun item member => ih item (List.mem_cons_of_mem _ member)
      simpa [write] using Layout.list inside
  | @record members each ih =>
    cases members with
    | nil => simpa [write] using Layout.emptyRecord .nil
    | cons first rest =>
      have inside := members_write first.1 (ih first List.mem_cons_self)
        fun m member => ih m (List.mem_cons_of_mem _ member)
      simpa [write] using Layout.record inside

theorem parse_compact {j : Json} (readable : Readable j) : parse j.compact = some j :=
  parse_layout readable.write_layout

theorem blank_newLine (depth : Nat) : Blank (newLine depth) := by
  intro c member
  rcases List.mem_cons.mp member with rfl | spaces
  · rfl
  · rw [(List.mem_replicate.mp spaces).2]
    rfl

theorem items_indent (depth : Nat) {first : Json} {rest : List Json}
    (shown : Layout first (indent (depth + 1) first))
    (each : ∀ item ∈ rest, Layout item (indent (depth + 1) item)) :
    Items (first :: rest)
      (newLine (depth + 1) ++ indent (depth + 1) first ++ indentItems depth rest) := by
  induction rest generalizing first with
  | nil =>
    simpa [indentItems] using Items.last (blank_newLine (depth + 1)) shown (blank_newLine depth)
  | cons item rest ih =>
    have later := ih (each item List.mem_cons_self)
      fun other member => each other (List.mem_cons_of_mem _ member)
    simpa [indentItems] using Items.more (blank_newLine (depth + 1)) shown .nil later

theorem members_indent (depth : Nat) (key : String) {value : Json} {rest : List (String × Json)}
    (shown : Layout value (indent (depth + 1) value))
    (each : ∀ m ∈ rest, Layout m.2 (indent (depth + 1) m.2)) :
    Members ((key, value) :: rest)
      (newLine (depth + 1) ++ writeText key ++ ':' :: ' ' :: indent (depth + 1) value
        ++ indentMembers depth rest) := by
  have space : Blank [' '] := by
    intro c member
    rw [List.mem_singleton.mp member]
    rfl
  induction rest generalizing key value with
  | nil =>
    simpa [indentMembers] using
      Members.last key (blank_newLine (depth + 1)) space shown (blank_newLine depth)
  | cons member rest ih =>
    have later := ih member.1 (each member List.mem_cons_self)
      fun other there => each other (List.mem_cons_of_mem _ there)
    simpa [indentMembers] using
      Members.more key (blank_newLine (depth + 1)) space shown .nil later

theorem Readable.indent_layout {j : Json} (readable : Readable j) (depth : Nat) :
    Layout j (indent depth j) := by
  induction readable generalizing depth with
  | null => simpa [indent] using Readable.null.write_layout
  | bool value => simpa [indent] using (Readable.bool value).write_layout
  | number numeral => simpa [indent] using (Readable.number numeral).write_layout
  | text value => simpa [indent] using (Readable.text value).write_layout
  | @list items each ih =>
    cases items with
    | nil => simpa [indent] using (Readable.list each).write_layout
    | cons first rest =>
      have inside := items_indent depth (ih first List.mem_cons_self (depth + 1))
        fun item member => ih item (List.mem_cons_of_mem _ member) (depth + 1)
      simpa [indent] using Layout.list inside
  | @record members each ih =>
    cases members with
    | nil => simpa [indent] using (Readable.record each).write_layout
    | cons first rest =>
      have inside := members_indent depth first.1
        (ih first List.mem_cons_self (depth + 1))
        fun m member => ih m (List.mem_cons_of_mem _ member) (depth + 1)
      simpa [indent] using Layout.record inside

theorem parse_pretty {j : Json} (readable : Readable j) : parse j.pretty = some j :=
  parse_layout (readable.indent_layout 0)

end Chronomata.Json
