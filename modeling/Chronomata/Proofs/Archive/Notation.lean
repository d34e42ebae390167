import Chronomata.Archive.Notation
import Chronomata.Proofs.Snapshot.Notation

-- Archives in object notation lose nothing: the text of an archive is read as that archive.
namespace Chronomata

open Source

namespace SessionId

theorem digits_length (id : SessionId) : id.digits.length = 32 :=
  Text.hexNat_length (by decide) (Nat.lt_of_lt_of_eq id.bits.isLt (by decide))

theorem ofDigits?_digits (id : SessionId) : ofDigits? id.digits = some id := by
  have value : Text.hexNat? id.digits = some id.bits.toNat := Text.hexNat?_hexNat 32 id.bits.toNat
  rw [ofDigits?, if_pos id.digits_length, value, Option.map_some, BitVec.ofNat_toNat,
    BitVec.setWidth_eq]

-- Groups of digits are put together again when each has its length.
theorem ofGroups?_groups {a b c d e : List Char} (first : a.length = 8) (second : b.length = 4)
    (third : c.length = 4) (fourth : d.length = 4) (fifth : e.length = 12) :
    ofGroups? (a ++ '-' :: b ++ '-' :: c ++ '-' :: d ++ '-' :: e) =
      ofDigits? (a ++ b ++ c ++ d ++ e) := by
  simp [ofGroups?, List.drop_append, List.drop_of_length_le,
    List.getElem?_append, first, second, third, fourth, fifth]

-- The digits in their groups.
theorem digits_groups (id : SessionId) :
    id.digits = id.digits.take 8 ++ (id.digits.drop 8).take 4 ++ (id.digits.drop 12).take 4
      ++ (id.digits.drop 16).take 4 ++ id.digits.drop 20 := by
  have step : ∀ start, (id.digits.drop start).take 4 ++ id.digits.drop (start + 4) =
      id.digits.drop start := by
    intro start
    rw [← List.drop_drop, List.take_append_drop]
  simp only [List.append_assoc, step, List.take_append_drop]

theorem read?_text (id : SessionId) : read? id.text = some id := by
  have length := id.digits_length
  have whole : ofGroups? id.text.toList = some id := by
    rw [text, String.toList_ofList, ofGroups?_groups, ← digits_groups, ofDigits?_digits]
    all_goals simp only [List.length_take, List.length_drop, length]
    all_goals decide
  have long : id.text.toList.length = 36 := by
    simp [text, length]
  simp only [read?, long, whole]

theorem faithful : Faithful toJson ofJson? := by
  refine ⟨fun id => .text id.text, ?_⟩
  intro id
  show (some id.text).bind read? = some id
  rw [Option.bind_some, read?_text]

end SessionId

theorem Span.of?_self (s : Span) : Span.of? s.seconds.toNat s.nanoseconds = some s := by
  obtain ⟨seconds, nanoseconds, bounded⟩ := s
  have carried : seconds.toNat + nanoseconds / 1000000000 = seconds.toNat := by omega
  have rest : nanoseconds % 1000000000 = nanoseconds := Nat.mod_eq_of_lt bounded
  have fits : seconds.toNat < UInt64.size := seconds.toNat_lt
  simp only [Span.of?, carried, if_pos fits, rest, UInt64.ofNat_toNat]

theorem Span.faithful : Faithful Span.toJson Span.read? := by
  refine Faithful.record (by decide) (fun _ => rfl) ?_ ?_
  · intro s
    simp [Json.Readable.natural]
  · intro s
    have seconds := Faithful.word64.reads s.seconds
    have bounded := s.nanoseconds_bounded
    have nanoseconds : bounded? 0 4294967295 (Json.natural s.nanoseconds) =
        some (s.nanoseconds : Int) := bounded?_natural (show s.nanoseconds ≤ 4294967295 by omega)
    simp [seconds, nanoseconds, Span.of?_self]

theorem Bookmark.faithful : Faithful Bookmark.toJson Bookmark.ofJson? := by
  refine Faithful.record (by decide) (fun _ => rfl) ?_ ?_
  · intro b
    simp [Json.Readable.text, countJson_faithful.readable, Timestamp.faithful.readable]
  · intro b
    simp [Faithful.text.reads, countJson_faithful.reads, Timestamp.faithful.reads]

theorem Ring.faithful : Faithful Ring.toJson Ring.ofJson? := by
  refine Faithful.record (by decide) (fun _ => rfl) ?_ ?_
  · intro r
    simp [countJson_faithful.readable, Frame.faithful.list.readable]
  · intro r
    simp [countJson_faithful.reads, Frame.faithful.list.reads]

theorem optionalTimestamp_faithful :
    Faithful (Json.optional Timestamp.toJson) (optional? Timestamp.ofJson?) :=
  Timestamp.faithful.optional fun _ => rfl

theorem Session.faithful : Faithful Session.toJson Session.ofJson? := by
  refine Faithful.record (by decide) (fun _ => rfl) ?_ ?_
  · intro s
    simp [Json.Readable.bool, SessionId.faithful.readable, Timestamp.faithful.readable,
      optionalTimestamp_faithful.readable, Span.faithful.readable, Ring.faithful.readable,
      Bookmark.faithful.list.readable, countJson_faithful.readable]
  · intro s
    simp [Faithful.bool.reads, SessionId.faithful.reads, Timestamp.faithful.reads,
      optionalTimestamp_faithful.reads, Span.faithful.reads, Ring.faithful.reads,
      Bookmark.faithful.list.reads, countJson_faithful.reads]

namespace Archive

theorem faithful : Faithful toJson ofJson? := by
  refine Faithful.record (by decide) (fun _ => rfl) ?_ ?_
  · intro a
    simp [Json.Readable.natural, Timestamp.faithful.readable, Session.faithful.readable]
  · intro a
    have version : bounded? 0 4294967295 (Json.natural a.version.toNat) =
        some (a.version.toNat : Int) := by
      refine bounded?_natural ?_
      exact Nat.le_sub_one_of_lt a.version.toNat_lt
    simp [version, Timestamp.faithful.reads, Session.faithful.reads]

theorem parse_toJsonText (a : Archive) : (Json.parse a.toJsonText).bind ofJson? = some a := by
  rw [toJsonText, Json.parse_pretty (faithful.readable a), Option.bind_some, faithful.reads]

end Archive

end Chronomata
