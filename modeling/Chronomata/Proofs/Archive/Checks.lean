import Chronomata.Proofs.Archive.Binary
import Chronomata.Proofs.Recording.Search

-- What is checked when an archive is read. Nothing else is known of an archive that comes from elsewhere:
-- its counters, its bookmarks and whether it records may be anything.
namespace Chronomata

-- A session whose frames can be looked up, and that holds no more of them than it has places.
structure Session.Orderly (s : Session) : Prop where
  increasing : Ring.Increasing s.ring.numbers
  room : s.size ≤ s.maxSnapshots.toNat

namespace Archive

theorem increases_iff {numbers : List UInt64} :
    increases numbers = true ↔ Ring.Increasing numbers := by
  induction numbers with
  | nil => simp [increases]
  | cons first rest ih =>
    cases rest with
    | nil => simp [increases]
    | cons second rest =>
      show ((first < second : Bool) && increases (second :: rest)) = true ↔ _
      rw [Bool.and_eq_true, decide_eq_true_eq, ih]
      refine Iff.trans ?_ List.pairwise_cons.symm
      constructor
      · rintro ⟨less, increasing⟩
        refine ⟨?_, increasing⟩
        intro number member
        rcases List.mem_cons.mp member with rfl | later
        · exact less
        · exact UInt64.lt_trans less ((List.pairwise_cons.mp increasing).1 number later)
      · rintro ⟨below, increasing⟩
        exact ⟨below second List.mem_cons_self, increasing⟩

theorem verify_eq_ok {a b : Archive} :
    a.verify = .ok b ↔ b = a ∧ a.version = currentVersion ∧ a.session.Orderly := by
  unfold verify
  constructor
  · intro verified
    split_ifs at verified with version numbers size
    cases verified
    refine ⟨rfl, not_not.mp version, ?_, Nat.not_lt.mp size⟩
    exact increases_iff.mp numbers
  · rintro ⟨rfl, version, increasing, room⟩
    rw [if_neg (not_not.mpr version), if_neg (not_not.mpr (increases_iff.mpr increasing)),
      if_neg (Nat.not_lt.mpr room)]

theorem verified_eq_ok {found : Option Archive} {a : Archive} :
    verified found = .ok a ↔ found = some a ∧ a.version = currentVersion ∧ a.session.Orderly := by
  cases found with
  | none => simp [verified]
  | some b =>
    show b.verify = .ok a ↔ _
    rw [verify_eq_ok, Option.some.injEq]
    constructor
    · rintro ⟨rfl, checked⟩
      exact ⟨rfl, checked⟩
    · rintro ⟨rfl, checked⟩
      exact ⟨rfl, checked⟩

-- Read from a text or from bytes, whoever wrote them.
def Accepted (a : Archive) : Prop :=
  (∃ text, ofJsonText text = .ok a) ∨ ∃ bytes, ofBytes bytes = .ok a

theorem Accepted.orderly {a : Archive} (accepted : a.Accepted) : a.session.Orderly := by
  rcases accepted with ⟨text, read⟩ | ⟨bytes, read⟩
  · exact (verified_eq_ok.mp read).2.2
  · exact (verified_eq_ok.mp read).2.2

variable {a : Archive}

theorem ofJsonText_toJsonText (version : a.version = currentVersion)
    (orderly : a.session.Orderly) : ofJsonText a.toJsonText = .ok a := by
  rw [ofJsonText, parse_toJsonText]
  exact verified_eq_ok.mpr ⟨rfl, version, orderly⟩

theorem ofBytes_toBytes (version : a.version = currentVersion) (orderly : a.session.Orderly)
    (short : a.toBytes.length < UInt64.size) : ofBytes a.toBytes = .ok a := by
  rw [ofBytes, decode_toBytes a short]
  exact verified_eq_ok.mpr ⟨rfl, version, orderly⟩

-- An archive that claims to record, whose counters fit none of its frames, and with a bookmark that
-- points at none of them. It is accepted all the same.
def forged : Archive where
  version := currentVersion
  exportedAt := .epoch
  session := {
    id := ⟨9⟩
    startedAt := .epoch
    endedAt := none
    interval := .ofMilliseconds 100
    isRecording := true
    ring := ⟨3, [.ofCapture 2 .epoch .empty, .ofCapture 7 .epoch .empty], 40⟩
    bookmarks := [⟨7, "a", .epoch⟩, ⟨2, "a", .epoch⟩, ⟨3, "b", .epoch⟩]
    nextFrame := 1 }

theorem forged_accepted : forged.Accepted :=
  .inl ⟨forged.toJsonText, ofJsonText_toJsonText rfl ⟨by decide, by decide⟩⟩

end Archive

end Chronomata
