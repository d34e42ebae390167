import Chronomata.Proofs.Decimal.Nearest
import Mathlib

-- Packing: a float keeps exactly the numbers of 53 digits whose exponent is in range, each in one form.
namespace Chronomata.Decimal

open Float.Model Float.Model.UnpackedFloat

-- The form of a positive finite number in which packing keeps it, whatever its size.
structure Canonical (mantissa : Nat) (exponent : Int) : Prop where
  positive : 0 < mantissa
  bounded : mantissa < 2 ^ 53
  least : -1074 ≤ exponent
  full : 2 ^ 52 ≤ mantissa ∨ exponent = -1074

-- Where a number has all of its binary digits, one with fewer places is less.
theorem exponent_le_of_ordered {mantissa mantissa' : Nat} {exponent exponent' : Int}
    (full : 2 ^ 52 ≤ mantissa ∨ exponent = -1074) (least : -1074 ≤ exponent')
    (bounded : mantissa' < 2 ^ 53)
    (ordered : mantissa * 2 ^ (exponent + 1074).toNat ≤ mantissa' * 2 ^ (exponent' + 1074).toNat) :
    exponent ≤ exponent' := by
  by_contra greater
  have full' : 2 ^ 52 ≤ mantissa := full.resolve_right (by omega)
  obtain ⟨more, above⟩ : ∃ more : Nat,
      (exponent + 1074).toNat = more + 1 + (exponent' + 1074).toNat :=
    ⟨(exponent - exponent').toNat - 1, by omega⟩
  rw [above, Nat.pow_add, ← Nat.mul_assoc] at ordered
  have scaled := Nat.le_of_mul_le_mul_right ordered (Nat.two_pow_pos _)
  have double : 2 ≤ 2 ^ (more + 1) := Nat.le_self_pow (by omega) 2
  have large := Nat.mul_le_mul full' double
  omega

theorem append_one_toNat (fraction : BitVec 52) :
    (1#1 ++ fraction).toNat = 2 ^ 52 + fraction.toNat := by
  rw [BitVec.toNat_append, ← Nat.shiftLeft_add_eq_or_of_lt fraction.isLt]
  rfl

-- The number that the three fields of a packed float stand for.
def ofFields (sign : Sign) (exponent : BitVec 11) (fraction : BitVec 52) : UnpackedFloat :=
  if exponent = -1#11 then
    if fraction = 0#52 then .infinity sign else .notANumber
  else if exponent = 0#11 then
    if none : fraction = 0#52 then .zero sign
    else .finite sign fraction.toNat (-1074) (BitVec.toNat_pos_of_ne_zero none)
  else .finite sign (1#1 ++ fraction).toNat (exponent.toNat - 1075)
    (Nat.lt_of_lt_of_eq (Nat.add_pos_left (Nat.two_pow_pos 52) fraction.toNat)
      (append_one_toNat fraction).symm)

theorem unpack_fields (packed : BitVec 64) :
    UnpackedFloat.unpack Format.binary64 packed =
      ofFields (.ofBitVec (@unpackSign Format.binary64 packed))
        (@unpackExponent Format.binary64 packed)
        (@unpackMantissa Format.binary64 packed) := by
  unfold UnpackedFloat.unpack ofFields
  dsimp only
  split_ifs with full empty low none
  · rfl
  · rfl
  · rfl
  · congr 1
    rw [low]
    rfl
  · rfl

theorem unpack_components (sign : Sign) (exponent : BitVec 11) (fraction : BitVec 52) :
    UnpackedFloat.unpack Format.binary64 (packComponents Format.binary64 sign exponent fraction) =
      ofFields sign exponent fraction := by
  rw [unpack_fields, unpackMantissa_packComponents, unpackExponent_packComponents,
    unpackSign_packComponents, Sign.ofBitVec_toBitVec]

theorem unpack_pack (f : UnpackedFloat) :
    (Float.Model.pack f).unpack =
      UnpackedFloat.unpack Format.binary64 (UnpackedFloat.pack Format.binary64 f) := rfl

theorem unpack_pack_infinity (sign : Sign) :
    (Float.Model.pack (.infinity sign)).unpack = .infinity sign :=
  unpack_components sign (-1#11) 0#52

theorem unpack_pack_zero (sign : Sign) : (Float.Model.pack (.zero sign)).unpack = .zero sign :=
  unpack_components sign 0#11 0#52

theorem pack_finite (sign : Sign) {mantissa : Nat} {exponent : Int} (positive : 0 < mantissa) :
    UnpackedFloat.pack Format.binary64 (.finite sign mantissa exponent positive) =
      if 2047 ≤ (exponent + 1075).toNat then packComponents Format.binary64 sign (-1#11) 0#52
      else if mantissa.log2 = 52 then
        packComponents Format.binary64 sign (.ofNat 11 (exponent + 1075).toNat)
          (.ofNat 52 mantissa)
      else packComponents Format.binary64 sign 0#11 (.ofNat 52 mantissa) := by
  have field : (exponent + Format.binary64.exponentBias +
      Format.binary64.mantissaBitsWithoutImplicit).toNat = (exponent + 1075).toNat := by
    show (exponent + (1023 : Nat) + (52 : Nat)).toNat = _
    omega
  have greatest : 2 ^ Format.binary64.exponentBits ≤ (exponent + 1075).toNat + 1 ↔
      2047 ≤ (exponent + 1075).toNat := by
    show 2 ^ 11 ≤ _ ↔ _
    omega
  have digits : mantissa.log2 + 1 = Format.binary64.mantissaBits ↔ mantissa.log2 = 52 := by
    show mantissa.log2 + 1 = 53 ↔ _
    omega
  unfold UnpackedFloat.pack
  simp only [field, greatest, digits]
  rfl

-- A number above the greatest exponent becomes infinity.
theorem unpack_pack_overflow (sign : Sign) {mantissa : Nat} {exponent : Int}
    (positive : 0 < mantissa) (large : 972 ≤ exponent) :
    (Float.Model.pack (.finite sign mantissa exponent positive)).unpack = .infinity sign := by
  rw [unpack_pack, pack_finite, if_pos (by omega)]
  exact unpack_components sign (-1#11) 0#52

theorem unpack_pack_finite (sign : Sign) {mantissa : Nat} {exponent : Int}
    (form : Canonical mantissa exponent) (small : exponent ≤ 971) :
    (Float.Model.pack (.finite sign mantissa exponent form.positive)).unpack =
      .finite sign mantissa exponent form.positive := by
  obtain ⟨positive, bounded, least, full⟩ := form
  have nonzero : mantissa ≠ 0 := Nat.ne_of_gt positive
  rw [unpack_pack, pack_finite, if_neg (by omega)]
  by_cases normal : 2 ^ 52 ≤ mantissa
  · have digits : mantissa.log2 = 52 := (Nat.log2_eq_iff nonzero).mpr ⟨normal, bounded⟩
    have stored : (BitVec.ofNat 11 (exponent + 1075).toNat).toNat = (exponent + 1075).toNat := by
      rw [BitVec.toNat_ofNat, Nat.mod_eq_of_lt (by omega)]
    have notAll : BitVec.ofNat 11 (exponent + 1075).toNat ≠ -1#11 := by
      intro same
      have all : (exponent + 1075).toNat = 2047 := by rw [← stored, same]; rfl
      omega
    have notNone : BitVec.ofNat 11 (exponent + 1075).toNat ≠ 0#11 := by
      intro same
      have none : (exponent + 1075).toNat = 0 := by rw [← stored, same]; rfl
      omega
    have whole : (1#1 ++ BitVec.ofNat 52 mantissa).toNat = mantissa := by
      rw [append_one_toNat, BitVec.toNat_ofNat]
      omega
    rw [if_pos digits, unpack_components, ofFields, if_neg notAll, if_neg notNone]
    congr 1
    omega
  · have exact : exponent = -1074 := full.resolve_left normal
    subst exact
    have digits : mantissa.log2 ≠ 52 :=
      Nat.ne_of_lt ((Nat.log2_lt nonzero).mpr (Nat.lt_of_not_le normal))
    have stored : (BitVec.ofNat 52 mantissa).toNat = mantissa := by
      rw [BitVec.toNat_ofNat, Nat.mod_eq_of_lt (by omega)]
    have some : BitVec.ofNat 52 mantissa ≠ 0#52 := by
      intro same
      rw [same] at stored
      exact nonzero stored.symm
    rw [if_neg digits, unpack_components, ofFields, if_neg (by decide), if_pos rfl, dif_neg some]
    congr 1

-- What a float unpacks to is in canonical form and in range.
theorem unpack_canonical {x : Float.Model} {sign : Sign} {mantissa : Nat} {exponent : Int}
    {positive : 0 < mantissa} (unpacked : x.unpack = .finite sign mantissa exponent positive) :
    Canonical mantissa exponent ∧ exponent ≤ 971 := by
  have fields := (unpack_fields x.toBits.toBitVec).symm.trans unpacked
  generalize @unpackMantissa Format.binary64 x.toBits.toBitVec = fraction at fields
  generalize @unpackExponent Format.binary64 x.toBits.toBitVec = field at fields
  have fractionBound : fraction.toNat < 2 ^ 52 := fraction.isLt
  have fieldBound : field.toNat < 2 ^ 11 := field.isLt
  unfold ofFields at fields
  split at fields
  · split at fields <;> cases fields
  · rename_i notAll
    split at fields
    · split at fields
      · cases fields
      · injection fields with _ mantissaAt exponentAt
        exact ⟨⟨positive, by omega, by omega, .inr exponentAt.symm⟩, by omega⟩
    · rename_i notNone
      injection fields with _ mantissaAt exponentAt
      rw [append_one_toNat] at mantissaAt
      have high : field.toNat ≠ 2047 := fun same => notAll (BitVec.eq_of_toNat_eq same)
      have low : field.toNat ≠ 0 := fun same => notNone (BitVec.eq_of_toNat_eq same)
      exact ⟨⟨positive, by omega, by omega, .inl (by omega)⟩, by omega⟩

end Chronomata.Decimal
