import Chronomata.Proofs.Json.Records
import Chronomata.Proofs.Sorted.Map
import Chronomata.Proofs.Time.Timestamp
import Chronomata.Snapshot.Notation

-- Snapshots in object notation lose nothing: every record is read back as it was written.
namespace Chronomata

open Source

theorem Timestamp.faithful : Faithful toJson ofJson? := by
  refine ⟨fun i => .text (write i), ?_⟩
  intro i
  show (some (write i)).bind read? = some i
  rw [Option.bind_some, read?_write]

theorem countJson_faithful : Faithful countJson word64? := Faithful.word64

theorem optionalText_faithful : Faithful (Json.optional Json.text) (optional? text?) :=
  Faithful.text.optional fun _ => rfl

theorem word_faithful {α : Type} {name : α → String} {all : List α}
    (each : ∀ value, (named name all).lookup (name value) = some value) :
    Faithful (fun value => Json.text (name value)) (word? name all) := by
  refine ⟨fun value => .text (name value), ?_⟩
  intro value
  show ((named name all).lookup (name value)).bind _ = _
  rw [each]
  rfl

theorem RunState.faithful : Faithful (fun s => Json.text (RunState.name s)) (word? name all) :=
  word_faithful fun s => by cases s <;> decide

theorem Severity.faithful : Faithful (fun s => Json.text (Severity.name s)) (word? name all) :=
  word_faithful fun s => by cases s <;> decide

theorem EventKind.faithful : Faithful (fun k => Json.text (EventKind.name k)) (word? name all) :=
  word_faithful fun k => by cases k <;> decide

theorem Connection.faithful : Faithful (fun c => Json.text (Connection.name c)) (word? name all) :=
  word_faithful fun c => by cases c <;> decide

theorem Health.faithful : Faithful (fun h => Json.text (Health.name h)) (word? name all) :=
  word_faithful fun h => by cases h <;> decide

theorem Value.faithful : Faithful Value.toJson Value.read? := by
  refine ⟨?_, ?_⟩
  · intro value
    cases value with
    | bool b => exact .record (by simp [Json.Readable.bool])
    | int i => exact .record (by simp [Json.Readable.integer])
    | str s => exact .record (by simp [Json.Readable.text])
    | void => exact .text "void"
  · intro value
    cases value with
    | bool b => rfl
    | int i => exact congrArg (Option.map Value.int) (Faithful.int64.reads i)
    | str s => rfl
    | void => rfl

theorem Values.faithful : Faithful Values.toJson Values.read? := by
  refine ⟨?_, ?_⟩
  · intro values
    refine .record ?_
    intro member listed
    obtain ⟨entry, _, rfl⟩ := List.mem_map.mp listed
    exact Value.faithful.readable entry.2
  · intro values
    have entries : map? Value.read? values.toJson = some values.entries := by
      refine mapM_eq_some ?_ values.entries
      intro entry
      simp only [Value.faithful.reads, Option.map_some]
    rw [Values.read?, entries]
    exact congrArg some (SortedMap.ofEntries_entries values)

theorem InstanceKey.faithful : Faithful InstanceKey.toJson InstanceKey.ofJson? := by
  refine Faithful.record (by decide) (fun _ => rfl) ?_ ?_
  · intro key
    simp [Json.Readable.text]
  · intro key
    simp [Faithful.text.reads]

theorem ExecutionSnapshot.faithful : Faithful ExecutionSnapshot.toJson ExecutionSnapshot.ofJson? := by
  refine Faithful.record (by decide) (fun _ => rfl) ?_ ?_
  · intro s
    simp [Json.Readable.text, InstanceKey.faithful.readable, Timestamp.faithful.readable,
      countJson_faithful.readable, optionalText_faithful.readable, Values.faithful.readable]
  · intro s
    simp [InstanceKey.faithful.reads, Timestamp.faithful.reads, countJson_faithful.reads,
      Faithful.text.reads, optionalText_faithful.reads, Values.faithful.reads,
      RunState.faithful.reads]

theorem optionalKey_faithful :
    Faithful (Json.optional InstanceKey.toJson) (optional? InstanceKey.ofJson?) :=
  InstanceKey.faithful.optional fun _ => rfl

theorem Event.faithful : Faithful Event.toJson Event.ofJson? := by
  refine Faithful.record (by decide) (fun _ => rfl) ?_ ?_
  · intro e
    simp [Json.Readable.text, Timestamp.faithful.readable, optionalKey_faithful.readable]
  · intro e
    simp [Timestamp.faithful.reads, Severity.faithful.reads, EventKind.faithful.reads,
      Faithful.text.reads, optionalKey_faithful.reads]

theorem Communication.faithful : Faithful Communication.toJson Communication.ofJson? := by
  refine Faithful.record (by decide) (fun _ => rfl) ?_ ?_
  · intro c
    simp [Json.Readable.text, Timestamp.faithful.readable, InstanceKey.faithful.readable,
      Value.faithful.readable]
  · intro c
    simp [Timestamp.faithful.reads, InstanceKey.faithful.reads, Faithful.text.reads,
      Value.faithful.reads]

theorem DeviceSummary.faithful : Faithful DeviceSummary.toJson DeviceSummary.ofJson? := by
  refine Faithful.record (by decide) (fun _ => rfl) ?_ ?_
  · intro d
    simp [Json.Readable.text, countJson_faithful.readable]
  · intro d
    simp [Faithful.text.reads, Connection.faithful.reads, Health.faithful.reads,
      countJson_faithful.reads]

theorem Frame.faithful : Faithful Frame.toJson Frame.ofJson? := by
  refine Faithful.record (by decide) (fun _ => rfl) ?_ ?_
  · intro f
    simp [countJson_faithful.readable, Timestamp.faithful.readable,
      ExecutionSnapshot.faithful.list.readable, DeviceSummary.faithful.list.readable,
      Communication.faithful.list.readable, Event.faithful.list.readable]
  · intro f
    simp [countJson_faithful.reads, Timestamp.faithful.reads,
      ExecutionSnapshot.faithful.list.reads, DeviceSummary.faithful.list.reads,
      Communication.faithful.list.reads, Event.faithful.list.reads]

end Chronomata
