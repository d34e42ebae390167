import Chronomata.Archive.Binary
import Chronomata.Proofs.Archive.Codec
import Chronomata.Proofs.Archive.Notation

-- Archives as bytes lose nothing: what is decoded from the bytes of an archive is that archive.
namespace Chronomata

open Codec

theorem Value.codec_lossless : Value.codec.Lossless := by
  have tag : ∀ alternative : Nat, alternative < 4 → (number 4).Restores alternative :=
    fun alternative small => number_restores (by decide) (Nat.lt_trans small (by decide))
  intro value
  cases value with
  | bool b =>
    refine (tag 0 (by decide)).behind (bool_lossless b) rfl ?_
    intro bytes rest decoded
    show ((number 4).decode bytes).bind _ = _
    rw [decoded]
    rfl
  | int i =>
    refine (tag 1 (by decide)).behind (int64_lossless i) rfl ?_
    intro bytes rest decoded
    show ((number 4).decode bytes).bind _ = _
    rw [decoded]
    rfl
  | str s =>
    refine (tag 2 (by decide)).behind (text_lossless s) rfl ?_
    intro bytes rest decoded
    show ((number 4).decode bytes).bind _ = _
    rw [decoded]
    rfl
  | void =>
    refine ⟨(tag 3 (by decide)).occupied, ?_⟩
    intro rest short
    have read : ∀ bytes, (number 4).decode bytes = some (3, rest) →
        codec.decode bytes = some (.void, rest) := by
      intro bytes decoded
      show ((number 4).decode bytes).bind _ = _
      rw [decoded]
      rfl
    exact read _ ((tag 3 (by decide)).restored rest short)

theorem Values.codec_lossless : Values.codec.Lossless :=
  (text_lossless.pair Value.codec_lossless).list.refine fun values =>
    congrArg some (SortedMap.ofEntries_entries values)

theorem Timestamp.codec_lossless : Timestamp.codec.Lossless :=
  text_lossless.refine read?_write

theorem Span.codec_lossless : Span.codec.Lossless := by
  intro s
  have nanoseconds : (number 4).Restores s.nanoseconds :=
    number_restores (by decide) (Nat.lt_trans s.nanoseconds_bounded (by decide))
  exact Restores.refine ((word64_lossless s.seconds).pair nanoseconds) s.of?_self

theorem SessionId.ofBytes?_bytes (id : SessionId) : ofBytes? id.bytes = some id := by
  have length : id.bytes.length = 16 := by
    rw [bytes, List.length_reverse, Random.littleEndian_length]
  rw [ofBytes?, if_pos length, bytes, List.reverse_reverse, Random.ofLittleEndian_littleEndian]
  have fits : id.bits.toNat % Nat.pow 256 16 = id.bits.toNat := Nat.mod_eq_of_lt id.bits.isLt
  rw [fits, BitVec.ofNat_toNat, BitVec.setWidth_eq]

theorem SessionId.codec_lossless : SessionId.codec.Lossless :=
  blob_lossless.refine ofBytes?_bytes

theorem InstanceKey.codec_lossless : InstanceKey.codec.Lossless :=
  (text_lossless.pair text_lossless).refine fun _ => rfl

theorem ExecutionSnapshot.codec_lossless : ExecutionSnapshot.codec.Lossless := by
  have runState : (member 4 RunState.all).Lossless := fun s =>
    member_restores (by decide) (by decide) (by cases s <;> decide)
  refine Lossless.refine ?_ fun _ => rfl
  exact InstanceKey.codec_lossless.pair <| Timestamp.codec_lossless.pair <|
    word64_lossless.pair <| text_lossless.pair <| text_lossless.optional.pair <|
    text_lossless.optional.pair <| Values.codec_lossless.pair <| Values.codec_lossless.pair <|
    Values.codec_lossless.pair runState

theorem DeviceSummary.codec_lossless : DeviceSummary.codec.Lossless := by
  have connection : (member 4 Connection.all).Lossless := fun c =>
    member_restores (by decide) (by decide) (by cases c <;> decide)
  have health : (member 4 Health.all).Lossless := fun h =>
    member_restores (by decide) (by decide) (by cases h <;> decide)
  refine Lossless.refine ?_ fun _ => rfl
  exact text_lossless.pair <| connection.pair <| health.pair <| word64_lossless.pair <|
    word64_lossless.pair <| word64_lossless.pair word64_lossless

theorem Communication.codec_lossless : Communication.codec.Lossless := by
  refine Lossless.refine ?_ fun _ => rfl
  exact Timestamp.codec_lossless.pair <| InstanceKey.codec_lossless.pair <|
    InstanceKey.codec_lossless.pair <| text_lossless.pair Value.codec_lossless

theorem Event.codec_lossless : Event.codec.Lossless := by
  have severity : (member 4 Severity.all).Lossless := fun s =>
    member_restores (by decide) (by decide) (by cases s <;> decide)
  have kind : (member 4 EventKind.all).Lossless := fun k =>
    member_restores (by decide) (by decide) (by cases k <;> decide)
  refine Lossless.refine ?_ fun _ => rfl
  exact Timestamp.codec_lossless.pair <| severity.pair <| kind.pair <| text_lossless.pair <|
    InstanceKey.codec_lossless.optional.pair text_lossless

theorem Frame.codec_lossless : Frame.codec.Lossless := by
  refine Lossless.refine ?_ fun _ => rfl
  exact word64_lossless.pair <| Timestamp.codec_lossless.pair <|
    ExecutionSnapshot.codec_lossless.list.pair <| DeviceSummary.codec_lossless.list.pair <|
    Communication.codec_lossless.list.pair Event.codec_lossless.list

theorem Ring.codec_lossless : Ring.codec.Lossless := by
  refine Lossless.refine ?_ fun _ => rfl
  exact word64_lossless.pair <| Frame.codec_lossless.list.pair word64_lossless

theorem Bookmark.codec_lossless : Bookmark.codec.Lossless := by
  refine Lossless.refine ?_ fun _ => rfl
  exact word64_lossless.pair <| text_lossless.pair Timestamp.codec_lossless

theorem Session.codec_lossless : Session.codec.Lossless := by
  refine Lossless.refine ?_ fun _ => rfl
  exact SessionId.codec_lossless.pair <| Timestamp.codec_lossless.pair <|
    Timestamp.codec_lossless.optional.pair <| Span.codec_lossless.pair <| bool_lossless.pair <|
    Ring.codec_lossless.pair <| Bookmark.codec_lossless.list.pair word64_lossless

namespace Archive

theorem codec_lossless : codec.Lossless := by
  refine Lossless.refine ?_ fun _ => rfl
  exact word32_lossless.pair <| Timestamp.codec_lossless.pair Session.codec_lossless

theorem decode_toBytes (a : Archive) (short : a.toBytes.length < UInt64.size) :
    (codec.decode a.toBytes).map (·.1) = some a := by
  have decoded := (codec_lossless a).restored [] short
  rw [List.append_nil] at decoded
  rw [toBytes, decoded]
  rfl

end Archive

end Chronomata
