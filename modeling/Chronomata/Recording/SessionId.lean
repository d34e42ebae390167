import Chronomata.Sorted.Map
import Chronomata.Text.Basic

-- Ids of recording sessions: 128 bits, written as hexadecimal digits in groups.
namespace Chronomata

structure SessionId where
  bits : BitVec 128
  deriving DecidableEq, Repr, Inhabited

namespace SessionId

def order : SessionId → SessionId → Ordering := compareOn fun id => id.bits.toNat

instance : Ord SessionId := ⟨order⟩

instance : Std.TransOrd SessionId :=
  inferInstanceAs (Std.TransCmp (compareOn fun id : SessionId => id.bits.toNat))

instance : Std.LawfulEqOrd SessionId where
  compare_self {a} := by
    show compareOn (fun id : SessionId => id.bits.toNat) a a = .eq
    exact Std.ReflCmp.compare_self
  eq_of_compare {a b} same := by
    have equal : a.bits.toNat = b.bits.toNat :=
      Std.LawfulEqCmp.eq_of_compare (show compare a.bits.toNat b.bits.toNat = .eq from same)
    obtain ⟨a⟩ := a
    obtain ⟨b⟩ := b
    exact congrArg mk (BitVec.eq_of_toNat_eq equal)

def ofRandom (bits : BitVec 128) : SessionId :=
  let version : BitVec 128 := 0xF <<< 76
  let variant : BitVec 128 := 0x3 <<< 62
  ⟨(bits &&& ~~~(version ||| variant)) ||| 0x4 <<< 76 ||| 0x2 <<< 62⟩

def digits (id : SessionId) : List Char := Text.hexNat 32 id.bits.toNat

def text (id : SessionId) : String :=
  let d := id.digits
  String.ofList (d.take 8 ++ '-' :: (d.drop 8).take 4 ++ '-' :: (d.drop 12).take 4
    ++ '-' :: (d.drop 16).take 4 ++ '-' :: d.drop 20)

def ofDigits? (digits : List Char) : Option SessionId :=
  if digits.length = 32 then (Text.hexNat? digits).map fun value => ⟨.ofNat 128 value⟩ else none

def ofGroups? (cs : List Char) : Option SessionId :=
  if cs.length = 36 ∧ [8, 13, 18, 23].all fun i => cs[i]? == some '-' then
    ofDigits? (cs.take 8 ++ (cs.drop 9).take 4 ++ (cs.drop 14).take 4 ++ (cs.drop 19).take 4
      ++ cs.drop 24)
  else none

def nameSpace : List Char := "urn:uuid:".toList

-- Read an id: in one run or in groups, and groups also in braces or behind their name space.
def read? (text : String) : Option SessionId :=
  let cs := text.toList
  match cs.length with
  | 32 => ofDigits? cs
  | 36 => ofGroups? cs
  | 38 =>
    if cs.head? = some '\x7b' ∧ cs.getLast? = some '\x7d' then ofGroups? (cs.drop 1).dropLast
    else none
  | 45 => if cs.take 9 = nameSpace then ofGroups? (cs.drop 9) else none
  | _ => none

end SessionId

end Chronomata
