import Chronomata.Json.Parser
import Chronomata.Json.Printer
import Chronomata.Proofs.Text.Digits
import Mathlib.Data.List.DropRight

-- A document as text, escaped as it is written and with blanks wherever they may stand. Every layout of a
-- document is read as that document, and nothing that follows it is touched.
namespace Chronomata.Json

def Blank (gap : List Char) : Prop := ∀ c ∈ gap, isSpace c = true

theorem Blank.nil : Blank [] := by
  rintro c ⟨⟩

theorem skipSpace_gap {gap : List Char} (blank : Blank gap) (cs : List Char) :
    skipSpace (gap ++ cs) = skipSpace cs := by
  rw [skipSpace, skipSpace, List.dropWhile_append_of_pos blank]

theorem skipSpace_cons {c : Char} (solid : isSpace c = false) (cs : List Char) :
    skipSpace (c :: cs) = c :: cs := by
  rw [skipSpace, List.dropWhile_cons_of_neg (by rw [solid]; decide)]

theorem skipSpace_skipSpace (cs : List Char) : skipSpace (skipSpace cs) = skipSpace cs := by
  exact List.dropWhile_idempotent _ _

theorem readValue_skipSpace (fuel : Nat) (cs : List Char) :
    readValue fuel (skipSpace cs) = readValue fuel cs := by
  cases fuel with
  | zero => rfl
  | succ fuel => simp only [readValue, skipSpace_skipSpace]

theorem readValue_gap {gap : List Char} (blank : Blank gap) (fuel : Nat) (cs : List Char) :
    readValue fuel (gap ++ cs) = readValue fuel cs := by
  rw [← readValue_skipSpace, skipSpace_gap blank, readValue_skipSpace]

theorem readItems_skipSpace (fuel : Nat) (cs : List Char) :
    readItems fuel (skipSpace cs) = readItems fuel cs := by
  cases fuel with
  | zero => rfl
  | succ fuel => simp only [readItems, readValue_skipSpace]

theorem readMembers_skipSpace (fuel : Nat) (cs : List Char) :
    readMembers fuel (skipSpace cs) = readMembers fuel cs := by
  cases fuel with
  | zero => rfl
  | succ fuel => simp only [readMembers, skipSpace_skipSpace]

theorem hexNat_control {code : Nat} (control : code < 0x20) : ∃ a b c d,
    Text.hexNat 4 code = [a, b, c, d] := by
  have length : (Text.hexNat 4 code).length = 4 := Text.hexNat_length (by decide) (by omega)
  match Text.hexNat 4 code, length with
  | [a, b, c, d], _ => exact ⟨a, b, c, d, rfl⟩

theorem readPieces_escape {e c : Char} (escape : escaped? e = some c) (rest : List Char) :
    readPieces ('\\' :: e :: rest) = (readPieces rest).map fun (pieces, rest) =>
      (.char c :: pieces, rest) := by
  have other : e ≠ 'u' := by
    rintro rfl
    cases escape
  rw [readPieces.eq_4 _ _ (by simp [other]), escape]
  cases readPieces rest <;> rfl

theorem readPieces_plain {c : Char} (quote : c ≠ '"') (backslash : c ≠ '\\')
    (solid : ¬ c.toNat < 0x20) (rest : List Char) :
    readPieces (c :: rest) = (readPieces rest).map fun (pieces, rest) =>
      (.char c :: pieces, rest) := by
  rw [readPieces.eq_5 _ _ quote (by simp [backslash]) (by simp [backslash]),
    if_neg (by simp [solid, backslash])]
  cases readPieces rest <;> rfl

theorem readPieces_control {c : Char} (control : c.toNat < 0x20) (rest : List Char) :
    readPieces ('\\' :: 'u' :: Text.hexNat 4 c.toNat ++ rest) =
      (readPieces rest).map fun (pieces, rest) => (.char c :: pieces, rest) := by
  obtain ⟨h, i, j, k, digits⟩ := hexNat_control control
  have code : Text.hexNat? [h, i, j, k] = some c.toNat := digits ▸ Text.hexNat?_hexNat 4 c.toNat
  have piece : Piece.ofCode c.toNat = .char c := by
    rw [Piece.ofCode, if_neg (by omega), Char.ofNat_toNat]
  rw [digits]
  simp only [List.cons_append, List.nil_append, readPieces.eq_3, code]
  rw [← piece]
  cases readPieces rest <;> rfl

-- What stands for a character is read as that character alone.
theorem readPieces_escapeChar (c : Char) (rest : List Char) :
    readPieces (escapeChar c ++ rest) = (readPieces rest).map fun (pieces, rest) =>
      (.char c :: pieces, rest) := by
  unfold escapeChar
  split
  · exact readPieces_escape rfl rest
  · exact readPieces_escape rfl rest
  · exact readPieces_escape rfl rest
  · exact readPieces_escape rfl rest
  · exact readPieces_escape rfl rest
  · exact readPieces_escape rfl rest
  · exact readPieces_escape rfl rest
  · rename_i quote backslash _ _ _ _ _
    split
    · rename_i control
      exact readPieces_control control rest
    · rename_i solid
      exact readPieces_plain quote backslash solid rest

theorem readPieces_written (cs rest : List Char) :
    readPieces (cs.flatMap escapeChar ++ '"' :: rest) = some (cs.map .char, rest) := by
  induction cs with
  | nil => simp [readPieces]
  | cons c cs ih =>
    rw [List.flatMap_cons, List.append_assoc, readPieces_escapeChar, ih]
    rfl

theorem joinPieces_chars (cs : List Char) : joinPieces (cs.map .char) = some cs := by
  induction cs with
  | nil => rfl
  | cons c cs ih => simp [joinPieces, ih]

theorem readText_written (value : String) (rest : List Char) :
    readText (value.toList.flatMap escapeChar ++ '"' :: rest) = some (some value, rest) := by
  simp [readText, readPieces_written, joinPieces_chars]

-- A text that is read as one number wherever it stands, and never as part of a longer one.
structure Numeral (written : List Char) (literal : Decimal.Literal) : Prop where
  nonempty : written ≠ []
  numeric : ∀ c ∈ written, isNumeric c = true
  reads : ∀ {rest}, Stops isNumeric rest → readNumber (written ++ rest) = some (literal, rest)

mutual

inductive Layout : Json → List Char → Prop where
  | null : Layout .null "null".toList
  | yes : Layout (.bool true) "true".toList
  | no : Layout (.bool false) "false".toList
  | number {written : List Char} {literal : Decimal.Literal} (numeral : Numeral written literal) :
      Layout (.number (String.ofList written)) written
  | text (value : String) : Layout (.text value) (writeText value)
  | emptyList {gap : List Char} (blank : Blank gap) : Layout (.list []) ('[' :: gap ++ [']'])
  | list {items : List Json} {cs : List Char} (inside : Items items cs) :
      Layout (.list items) ('[' :: cs)
  | emptyRecord {gap : List Char} (blank : Blank gap) :
      Layout (.record []) ('\x7b' :: gap ++ ['\x7d'])
  | record {members : List (String × Json)} {cs : List Char} (inside : Members members cs) :
      Layout (.record members) ('\x7b' :: cs)

-- The items of a list up to its end; there is at least one.
inductive Items : List Json → List Char → Prop where
  | last {gap cs gap' : List Char} {item : Json} (before : Blank gap) (shown : Layout item cs)
      (behind : Blank gap') : Items [item] (gap ++ cs ++ gap' ++ [']'])
  | more {gap cs gap' rest : List Char} {item : Json} {items : List Json} (before : Blank gap)
      (shown : Layout item cs) (behind : Blank gap') (later : Items items rest) :
      Items (item :: items) (gap ++ cs ++ gap' ++ ',' :: rest)

inductive Members : List (String × Json) → List Char → Prop where
  | last {gap gap' cs gap'' : List Char} (key : String) {value : Json} (before : Blank gap)
      (between : Blank gap') (shown : Layout value cs) (behind : Blank gap'') :
      Members [(key, value)] (gap ++ writeText key ++ ':' :: gap' ++ cs ++ gap'' ++ ['\x7d'])
  | more {gap gap' cs gap'' rest : List Char} (key : String) {value : Json}
      {members : List (String × Json)} (before : Blank gap) (between : Blank gap')
      (shown : Layout value cs) (behind : Blank gap'') (later : Members members rest) :
      Members ((key, value) :: members)
        (gap ++ writeText key ++ ':' :: gap' ++ cs ++ gap'' ++ ',' :: rest)

end

variable {j : Json} {items : List Json} {members : List (String × Json)} {cs rest : List Char}

theorem isNumeric_solid {c : Char} (numeric : isNumeric c = true) :
    isSpace c = false ∧ c ≠ ']' ∧ c ≠ '"' ∧ c ≠ '[' ∧ c ≠ '\x7b' ∧ c ≠ 'n' ∧ c ≠ 't' ∧ c ≠ 'f' := by
  refine ⟨?_, ?_, ?_, ?_, ?_, ?_, ?_, ?_⟩
  · refine Bool.eq_false_iff.mpr ?_
    intro space
    simp only [isSpace, Bool.or_eq_true, decide_eq_true_eq] at space
    rcases space with ((rfl | rfl) | rfl) | rfl <;> cases numeric
  all_goals
    rintro rfl
    cases numeric

theorem Layout.head (layout : Layout j cs) : ∃ c tail, cs = c :: tail ∧ isSpace c = false ∧ c ≠ ']' := by
  cases layout with
  | number numeral =>
    obtain ⟨c, tail, rfl⟩ := List.exists_cons_of_ne_nil numeral.nonempty
    obtain ⟨solid, other, _⟩ := isNumeric_solid (numeral.numeric c List.mem_cons_self)
    exact ⟨c, tail, rfl, solid, other⟩
  | null => exact ⟨_, _, rfl, rfl, by decide⟩
  | yes => exact ⟨_, _, rfl, rfl, by decide⟩
  | no => exact ⟨_, _, rfl, rfl, by decide⟩
  | text value => exact ⟨_, _, rfl, rfl, by decide⟩
  | emptyList blank => exact ⟨_, _, rfl, rfl, by decide⟩
  | list inside => exact ⟨_, _, rfl, rfl, by decide⟩
  | emptyRecord blank => exact ⟨_, _, rfl, rfl, by decide⟩
  | record inside => exact ⟨_, _, rfl, rfl, by decide⟩

-- The first item stands behind the blanks, and no list ends there.
theorem Items.head (inside : Items items cs) (rest : List Char) :
    ∃ c tail, skipSpace (cs ++ rest) = c :: tail ∧ c ≠ ']' := by
  cases inside with
  | last before shown behind =>
    obtain ⟨c, tail, rfl, solid, other⟩ := shown.head
    simp only [List.append_assoc, skipSpace_gap before, List.cons_append, skipSpace_cons solid]
    exact ⟨c, _, rfl, other⟩
  | more before shown behind later =>
    obtain ⟨c, tail, rfl, solid, other⟩ := shown.head
    simp only [List.append_assoc, skipSpace_gap before, List.cons_append, skipSpace_cons solid]
    exact ⟨c, _, rfl, other⟩

theorem Members.head (inside : Members members cs) (rest : List Char) :
    ∃ tail, skipSpace (cs ++ rest) = '"' :: tail := by
  cases inside with
  | last key before between shown behind =>
    simp only [List.append_assoc, skipSpace_gap before, writeText, List.cons_append]
    exact ⟨_, skipSpace_cons rfl _⟩
  | more key before between shown behind later =>
    simp only [List.append_assoc, skipSpace_gap before, writeText, List.cons_append]
    exact ⟨_, skipSpace_cons rfl _⟩

-- The readers call one another with less and less fuel, so all three are followed at once by the fuel
-- that they have.

def ReadsValues (fuel : Nat) : Prop :=
  ∀ {j cs rest}, Layout j cs → Stops isNumeric rest → 2 * cs.length ≤ fuel →
    readValue fuel (cs ++ rest) = some (j, rest)

def ReadsItems (fuel : Nat) : Prop :=
  ∀ {items cs}, Items items cs → 2 * cs.length + 1 ≤ fuel → ∀ rest,
    readItems fuel (cs ++ rest) = some (items, rest)

def ReadsMembers (fuel : Nat) : Prop :=
  ∀ {members cs}, Members members cs → 2 * cs.length + 1 ≤ fuel → ∀ rest,
    readMembers fuel (cs ++ rest) = some (members.map fun m => (some m.1, m.2), rest)

theorem recordOf_keys (members : List (String × Json)) :
    recordOf (members.map fun m => (some m.1, m.2)) = .record members := by
  have keys : (members.map fun m => ((some m.1, m.2) : Option String × Json)).mapM
      (fun m => m.1.map (·, m.2)) = some members := by
    induction members with
    | nil => rfl
    | cons member members ih => simp [ih]
  rw [recordOf, keys]

theorem Stops.gap {gap : List Char} (blank : Blank gap) {c : Char} (other : isNumeric c = false)
    (rest : List Char) : Stops isNumeric (gap ++ c :: rest) := by
  cases gap with
  | nil => exact .cons other
  | cons space gap =>
    refine .cons ?_
    refine Bool.eq_false_iff.mpr ?_
    intro numeric
    have solid := (isNumeric_solid numeric).1
    cases (blank space List.mem_cons_self).symm.trans solid

variable {fuel : Nat}

theorem readValue_numeral {written : List Char} {literal : Decimal.Literal}
    (numeral : Numeral written literal) (stops : Stops isNumeric rest) :
    readValue (fuel + 1) (written ++ rest) = some (.number (String.ofList written), rest) := by
  obtain ⟨c, tail, rfl⟩ := List.exists_cons_of_ne_nil numeral.nonempty
  obtain ⟨solid, close, quote, bracket, brace, n, t, f⟩ :=
    isNumeric_solid (numeral.numeric c List.mem_cons_self)
  have reads := numeral.reads stops
  have run := takeWhile_run numeral.numeric stops
  rw [List.cons_append] at reads run ⊢
  rw [readValue, skipSpace_cons solid]
  split
  case h_7 =>
    rw [reads, run]
    rfl
  all_goals
    rename_i same
    cases same
    contradiction

theorem readValue_layout (readsItems : ReadsItems fuel) (readsMembers : ReadsMembers fuel) :
    ReadsValues (fuel + 1) := by
  intro j cs rest layout stops enough
  cases layout with
  | null => rfl
  | yes => rfl
  | no => rfl
  | number numeral => exact readValue_numeral numeral stops
  | text value =>
    simp only [writeText, List.cons_append, List.append_assoc, List.nil_append, readValue,
      skipSpace_cons (show isSpace '"' = false from rfl)]
    rw [readText_written]
    rfl
  | emptyList blank =>
    simp only [List.cons_append, List.append_assoc, List.nil_append, readValue,
      skipSpace_cons (show isSpace '[' = false from rfl), skipSpace_gap blank,
      skipSpace_cons (show isSpace ']' = false from rfl)]
  | list inside =>
    obtain ⟨c, tail, first, other⟩ := inside.head rest
    have read := readsItems inside (by simp only [List.length_cons] at enough; omega) rest
    rw [← readItems_skipSpace, first] at read
    simp only [List.cons_append, readValue, skipSpace_cons (show isSpace '[' = false from rfl), first]
    split
    · rename_i same
      cases same
      exact absurd rfl other
    · rename_i same
      rw [read]
      rfl
  | emptyRecord blank =>
    simp only [List.cons_append, List.append_assoc, List.nil_append, readValue,
      skipSpace_cons (show isSpace '\x7b' = false from rfl), skipSpace_gap blank,
      skipSpace_cons (show isSpace '\x7d' = false from rfl)]
  | record inside =>
    obtain ⟨tail, first⟩ := inside.head rest
    have read := readsMembers inside (by simp only [List.length_cons] at enough; omega) rest
    rw [← readMembers_skipSpace, first] at read
    simp only [List.cons_append, readValue, skipSpace_cons (show isSpace '\x7b' = false from rfl),
      first]
    change (readMembers fuel ('"' :: tail)).bind _ = _
    rw [read, Option.bind_some, recordOf_keys]

theorem readItems_layout (readsValues : ReadsValues fuel) (readsItems : ReadsItems fuel) :
    ReadsItems (fuel + 1) := by
  intro items cs inside enough rest
  cases inside with
  | last before shown behind =>
    simp only [List.length_append, List.length_singleton] at enough
    have stops := Stops.gap behind (show isNumeric ']' = false from rfl) rest
    simp only [List.append_assoc, List.singleton_append, readItems, readValue_gap before,
      readsValues shown stops (by omega), Option.bind_eq_bind, Option.bind_some,
      skipSpace_gap behind, skipSpace_cons (show isSpace ']' = false from rfl)]
  | more before shown behind later =>
    simp only [List.length_append, List.length_cons] at enough
    have stops := Stops.gap behind (show isNumeric ',' = false from rfl)
    simp only [List.append_assoc, List.cons_append, readItems, readValue_gap before,
      readsValues shown (stops _) (by omega), Option.bind_eq_bind, Option.bind_some,
      skipSpace_gap behind, skipSpace_cons (show isSpace ',' = false from rfl),
      readsItems later (by omega)]

theorem readMembers_layout (readsValues : ReadsValues fuel) (readsMembers : ReadsMembers fuel) :
    ReadsMembers (fuel + 1) := by
  intro members cs inside enough rest
  cases inside with
  | last key before between shown behind =>
    simp only [List.length_append, List.length_cons, List.length_nil] at enough
    have stops := Stops.gap behind (show isNumeric '\x7d' = false from rfl) rest
    simp only [List.append_assoc, List.cons_append, List.nil_append, writeText, readMembers,
      skipSpace_gap before, skipSpace_cons (show isSpace '"' = false from rfl), readText_written,
      skipSpace_cons (show isSpace ':' = false from rfl), readValue_gap between,
      readsValues shown stops (by omega), Option.bind_eq_bind, Option.bind_some,
      skipSpace_gap behind, skipSpace_cons (show isSpace '\x7d' = false from rfl), List.map_cons,
      List.map_nil]
  | more key before between shown behind later =>
    simp only [List.length_append, List.length_cons] at enough
    have stops := Stops.gap behind (show isNumeric ',' = false from rfl)
    simp only [List.append_assoc, List.cons_append, List.nil_append, writeText, readMembers,
      skipSpace_gap before, skipSpace_cons (show isSpace '"' = false from rfl), readText_written,
      skipSpace_cons (show isSpace ':' = false from rfl), readValue_gap between,
      readsValues shown (stops _) (by omega), Option.bind_eq_bind, Option.bind_some,
      skipSpace_gap behind, skipSpace_cons (show isSpace ',' = false from rfl),
      readsMembers later (by omega), List.map_cons]

theorem reads_layouts (fuel : Nat) : ReadsValues fuel ∧ ReadsItems fuel ∧ ReadsMembers fuel := by
  induction fuel with
  | zero =>
    refine ⟨?_, ?_, ?_⟩
    · intro j cs rest layout stops enough
      obtain ⟨c, tail, rfl, _⟩ := layout.head
      simp at enough
    · intro items cs inside enough rest
      omega
    · intro members cs inside enough rest
      omega
  | succ fuel ih =>
    obtain ⟨values, items, members⟩ := ih
    exact ⟨readValue_layout items members, readItems_layout values items,
      readMembers_layout values members⟩

theorem parse_layout (layout : Layout j cs) : parse (String.ofList cs) = some j := by
  have read : readValue (fuelFor cs) (cs ++ []) = some (j, []) :=
    (reads_layouts (fuelFor cs)).1 layout .nil (by rw [fuelFor]; omega)
  rw [List.append_nil] at read
  simp only [parse, String.toList_ofList, read, Option.bind_eq_bind, Option.bind_some]
  rfl

end Chronomata.Json
