import Mathlib
import TreePath.Proofs.Number.Rounding
namespace TreePath.Binary
open Float.Model (Format UnpackedFloat)
open Float.Model.UnpackedFloat

variable {x : Float} {sign : Sign} {exponent : BitVec 11} {fraction : BitVec 52}

theorem packComponents_toNat : (packComponents .binary64 sign exponent fraction).toNat =
    sign.toBitVec.toNat * 2 ^ 63 + exponent.toNat * 2 ^ 52 + fraction.toNat := by
  have isExponent := exponent.isLt
  have isFraction := fraction.isLt
  unfold packComponents
  rw [BitVec.toNat_append, BitVec.toNat_append, ← Nat.shiftLeft_add_eq_or_of_lt isFraction,
    ← Nat.shiftLeft_add_eq_or_of_lt isExponent, Nat.shiftLeft_eq, Nat.shiftLeft_eq]
  omega

theorem toNat_implicit : (1#1 ++ fraction).toNat = 2 ^ 52 + fraction.toNat := by
  rw [BitVec.toNat_append, ← Nat.shiftLeft_add_eq_or_of_lt fraction.isLt]
  rfl

theorem unpack_packComponents (finite : exponent ≠ -1#11) :
    unpack .binary64 (packComponents .binary64 sign exponent fraction) =
      if exponent = 0#11 then
        if positive : 0 < fraction.toNat then .finite sign fraction.toNat (-1074) positive else .zero sign
      else .finite sign (2 ^ 52 + fraction.toNat) (exponent.toNat - 1075) (Nat.add_pos_left (by decide) _) := by
  unfold unpack
  dsimp only
  simp only [unpackExponent_packComponents, unpackMantissa_packComponents, unpackSign_packComponents,
    Sign.ofBitVec_toBitVec, toNat_implicit]
  rw [if_neg finite]
  split
  · rename_i none
    subst none
    split
    · rename_i zero
      subst zero
      rfl
    · rename_i some
      rw [dif_pos (Nat.pos_of_ne_zero fun zero => some (BitVec.eq_of_toNat_eq zero))]
      rfl
  · rfl

theorem unpack_isFinite : (unpack .binary64 (packComponents .binary64 sign exponent fraction)).isFinite = true ↔
    exponent ≠ -1#11 := by
  constructor
  · rintro finite rfl
    unfold unpack at finite
    simp only [unpackExponent_packComponents, unpackMantissa_packComponents, if_true] at finite
    split at finite <;> cases finite
  · intro finite
    rw [unpack_packComponents finite]
    split
    · split <;> rfl
    · rfl

theorem valid_packComponents (finite : exponent ≠ -1#11) :
    Format.binary64.Valid (packComponents .binary64 sign exponent fraction) :=
  ⟨fun full => absurd (unpackExponent_packComponents.symm.trans full) finite⟩

def signOf (negative : Bool) : Sign := if negative then .negative else .positive

-- The number with these parts, as the arithmetic of doubles takes it.
def unpacked (p : BinaryParts) : UnpackedFloat :=
  if positive : 0 < p.magnitude then .finite (signOf p.negative) p.magnitude p.power positive
  else .zero (signOf p.negative)

-- Parts of a finite double.
def FiniteParts (p : BinaryParts) : Prop := 0 < p.magnitude → Canonical p.magnitude p.power ∧ p.power ≤ 971

theorem unpacked_pos {p : BinaryParts} (positive : 0 < p.magnitude) :
    unpacked p = .finite (signOf p.negative) p.magnitude p.power positive := dif_pos positive

theorem unpacked_zero {p : BinaryParts} (zero : p.magnitude = 0) : unpacked p = .zero (signOf p.negative) :=
  dif_neg (Nat.not_lt.mpr (Nat.le_of_eq zero))

-- The parts that the fields of a finite double say.
def ofFields (negative : Bool) (exponent : BitVec 11) (fraction : BitVec 52) : BinaryParts :=
  if exponent = 0#11 then ⟨negative, fraction.toNat, -1074⟩
  else ⟨negative, 2 ^ 52 + fraction.toNat, (exponent.toNat : Int) - 1075⟩

theorem unpack_fields {negative : Bool} (finite : exponent ≠ -1#11) :
    unpack .binary64 (packComponents .binary64 (signOf negative) exponent fraction) =
      unpacked (ofFields negative exponent fraction) := by
  rw [unpack_packComponents finite]
  unfold ofFields
  split
  · rfl
  · rw [unpacked_pos (Nat.add_pos_left (by decide) _)]

theorem finite_ofFields {negative : Bool} (finite : exponent ≠ -1#11) :
    FiniteParts (ofFields negative exponent fraction) := by
  have isExponent := exponent.isLt
  have isFraction := fraction.isLt
  have most : exponent.toNat ≠ 2047 := fun same => finite (BitVec.eq_of_toNat_eq same)
  unfold ofFields
  split
  · exact fun positive => ⟨⟨positive, Nat.lt_trans isFraction (by decide), Int.le_refl _,
      fun less => absurd less (Int.lt_irrefl _)⟩, (by decide : (-1074 : Int) ≤ 971)⟩
  · rename_i some
    have least : exponent.toNat ≠ 0 := fun zero => some (BitVec.eq_of_toNat_eq zero)
    exact fun positive => ⟨⟨positive, by dsimp only; omega, by dsimp only; omega, fun _ => by dsimp only; omega⟩,
      by dsimp only; omega⟩

theorem ofFloat_fields {negative : Bool}
    (same : x.toBits.toBitVec = packComponents .binary64 (signOf negative) exponent fraction) :
    BinaryParts.ofFloat x = ofFields negative exponent fraction := by
  have isExponent := exponent.isLt
  have isFraction := fraction.isLt
  have isSign : (signOf negative).toBitVec.toNat = if negative then 1 else 0 := by cases negative <;> rfl
  have bits : x.toBits.toNat =
      (signOf negative).toBitVec.toNat * 2 ^ 63 + exponent.toNat * 2 ^ 52 + fraction.toNat := by
    rw [← packComponents_toNat, ← same]
    rfl
  have first : decide (x.toBits.toNat / 2 ^ 63 = 1) = negative := by
    cases negative with
    | true => exact decide_eq_true (by rw [bits, isSign, if_pos rfl]; omega)
    | false => exact decide_eq_false (by rw [bits, isSign, if_neg (by decide)]; omega)
  have second : x.toBits.toNat / 2 ^ 52 % 2 ^ 11 = exponent.toNat := by
    rw [bits]
    omega
  have third : x.toBits.toNat % 2 ^ 52 = fraction.toNat := by
    rw [bits]
    omega
  have zero : exponent.toNat = 0 ↔ exponent = 0#11 := BitVec.toNat_inj (y := 0#11)
  unfold BinaryParts.ofFloat ofFields
  simp only [Nat.pow_eq, first, second, third, zero]

theorem exists_fields (finite : x.isFinite = true) : ∃ negative exponent fraction, exponent ≠ -1#11 ∧
    x.toBits.toBitVec = packComponents .binary64 (signOf negative) exponent fraction := by
  have whole := @packComponents_unpackSign_unpackExponent_unpackMantissa .binary64 x.toBits.toBitVec
  have inside : @unpackExponent .binary64 x.toBits.toBitVec ≠ -1#11 := by
    rw [← unpack_isFinite, whole]
    exact finite
  cases isSign : Sign.ofBitVec (@unpackSign .binary64 x.toBits.toBitVec) with
  | positive =>
    rw [isSign] at whole
    exact ⟨false, _, _, inside, whole.symm⟩
  | negative =>
    rw [isSign] at whole
    exact ⟨true, _, _, inside, whole.symm⟩

theorem finite_ofFloat (finite : x.isFinite = true) : FiniteParts (BinaryParts.ofFloat x) := by
  obtain ⟨negative, exponent, fraction, inside, same⟩ := exists_fields finite
  rw [ofFloat_fields same]
  exact finite_ofFields inside

-- A finite double is its parts, packed.
theorem toModel_eq (finite : x.isFinite = true) : x.toModel = .pack (unpacked (BinaryParts.ofFloat x)) := by
  obtain ⟨negative, exponent, fraction, inside, same⟩ := exists_fields finite
  rw [ofFloat_fields same, ← unpack_fields inside, ← same]
  exact congrArg Float.toModel (Float.ofBits_toBits x).symm

-- The parts of finite doubles are those that some fields say.
theorem exists_ofFields {p : BinaryParts} (finite : FiniteParts p) : ∃ exponent fraction, exponent ≠ -1#11 ∧
    unpacked p = unpacked (ofFields p.negative exponent fraction) := by
  rcases Nat.eq_zero_or_pos p.magnitude with zero | positive
  · exact ⟨0#11, 0#52, by decide, unpacked_zero zero⟩
  obtain ⟨canonical, power⟩ := finite positive
  have lowest := canonical.lowest
  have bits := canonical.bits
  by_cases subnormal : p.magnitude < 2 ^ 52
  · have least : p.power = -1074 :=
      Int.le_antisymm (Int.not_lt.mp fun more => Nat.not_le.mpr subnormal (canonical.full more)) lowest
    have same : ofFields p.negative 0#11 (.ofNat 52 p.magnitude) = p := by
      unfold ofFields
      rw [if_pos rfl, BitVec.toNat_ofNat, Nat.mod_eq_of_lt subnormal, ← least]
    exact ⟨0#11, _, by decide, congrArg unpacked same.symm⟩
  · have isExponent : (BitVec.ofNat 11 (p.power + 1075).toNat).toNat = (p.power + 1075).toNat := by
      rw [BitVec.toNat_ofNat, Nat.mod_eq_of_lt (by omega)]
    have apart : ∀ e : BitVec 11, e.toNat = 0 ∨ e.toNat = 2047 → BitVec.ofNat 11 (p.power + 1075).toNat ≠ e := by
      rintro e ends rfl
      omega
    have same : ofFields p.negative (.ofNat 11 (p.power + 1075).toNat) (.ofNat 52 p.magnitude) = p := by
      have magnitude : 2 ^ 52 + p.magnitude % 2 ^ 52 = p.magnitude := by omega
      have power : ((p.power + 1075).toNat : Int) - 1075 = p.power := by omega
      unfold ofFields
      rw [if_neg (apart _ (.inl rfl)), isExponent, power, BitVec.toNat_ofNat, magnitude]
    exact ⟨_, _, apart _ (.inr rfl), congrArg unpacked same.symm⟩

theorem unpack_pack {p : BinaryParts} (finite : FiniteParts p) : (Float.Model.pack (unpacked p)).unpack = unpacked p := by
  obtain ⟨exponent, fraction, inside, same⟩ := exists_ofFields finite
  change unpack .binary64 (pack .binary64 (unpacked p)) = _
  rw [same, ← unpack_fields inside, pack_unpack_of_valid (valid_packComponents inside)]

end TreePath.Binary
