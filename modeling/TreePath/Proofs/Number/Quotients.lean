import Mathlib.Tactic.Linarith
import TreePath.Proofs.Number.Packing
namespace TreePath.Binary
open Float.Model (Format UnpackedFloat totalExponent)
open Float.Model.UnpackedFloat

variable {m n e : Nat} {q : Int} {sign : Sign}

-- The double with these parts.
def ofParts (p : BinaryParts) : Float := .ofModel (.pack (unpacked p))

theorem roundWithAccuracy_exact (canonical : Canonical m q) :
    roundWithAccuracy .binary64 sign m q .exact = .finite sign m q canonical.positive := by
  have still := carry_none canonical.bits canonical.lowest
  have rounded : (⟨m, false, false⟩ : ExtendedMantissa).roundedMantissa = m := rfl
  unfold roundWithAccuracy
  rw [still]
  dsimp only
  rw [rounded, still]
  exact dif_neg (Nat.ne_of_gt canonical.positive)

-- A number of at most 53 bits, moved up to fill them.
theorem canonical_shifted (positive : 0 < n) (bits : n < 2 ^ 53) :
    Canonical (n * 2 ^ (52 - n.log2)) (-((52 - n.log2 : Nat) : Int)) := by
  have log : n.log2 < 53 := (Nat.log2_lt (Nat.ne_of_gt positive)).mpr bits
  have high : n < 2 ^ (n.log2 + 1) := Nat.lt_log2_self
  have low : 2 ^ n.log2 ≤ n := Nat.log2_self_le (Nat.ne_of_gt positive)
  refine ⟨Nat.mul_pos positive (Nat.pow_pos (by decide)), ?_, by omega, fun _ => ?_⟩
  · calc n * 2 ^ (52 - n.log2) < 2 ^ (n.log2 + 1) * 2 ^ (52 - n.log2) :=
          Nat.mul_lt_mul_of_pos_right high (Nat.pow_pos (by decide))
      _ = 2 ^ 53 := by rw [← Nat.pow_add]; congr 1; omega
  · calc 2 ^ 52 = 2 ^ n.log2 * 2 ^ (52 - n.log2) := by rw [← Nat.pow_add]; congr 1; omega
      _ ≤ n * 2 ^ (52 - n.log2) := Nat.mul_le_mul_right _ low

theorem round_exact (positive : 0 < n) (bits : n < 2 ^ 53) : UnpackedFloat.round .binary64 sign n 0 =
    .finite sign (n * 2 ^ (52 - n.log2)) (-((52 - n.log2 : Nat) : Int)) (canonical_shifted positive bits).positive := by
  have log : n.log2 < 53 := (Nat.log2_lt (Nat.ne_of_gt positive)).mpr bits
  have shift : (0 - Format.binary64.targetExponent (totalExponent n 0)).toNat = 52 - n.log2 := by
    rw [targetExponent_eq, totalExponent]
    omega
  unfold UnpackedFloat.round decreaseExponent
  dsimp only
  rw [shift, Nat.shiftLeft_eq, Int.zero_sub]
  exact roundWithAccuracy_exact (canonical_shifted positive bits)

-- A positive number, and its value.
def Exact (f : UnpackedFloat) (v : ℚ) : Prop :=
  ∃ m q positive, f = .finite .positive m q positive ∧ (m : ℚ) * 2 ^ q = v

theorem toFloat_unpack (positive : 0 < n) (bits : n < 2 ^ 53) :
    n.toUInt64.toFloat.toModel.unpack = .finite .positive (n * 2 ^ (52 - n.log2)) (-((52 - n.log2 : Nat) : Int))
      (canonical_shifted positive bits).positive := by
  have canonical := canonical_shifted positive bits
  have same : n.toUInt64.toNat = n := Nat.mod_eq_of_lt (Nat.lt_trans bits (by decide))
  have rounded : UnpackedFloat.ofUInt64 .binary64 n.toUInt64 =
      unpacked ⟨false, n * 2 ^ (52 - n.log2), -((52 - n.log2 : Nat) : Int)⟩ := by
    unfold UnpackedFloat.ofUInt64 UnpackedFloat.ofNat UnpackedFloat.ofInt UnpackedFloat.normalize
    rw [same, Int.compare_eq_gt.mpr (by omega)]
    exact (round_exact positive bits).trans (unpacked_pos (p := ⟨false, _, _⟩) canonical.positive).symm
  change (Float.Model.pack (UnpackedFloat.ofUInt64 .binary64 n.toUInt64)).unpack = _
  rw [rounded, unpack_pack fun _ => ⟨canonical, by dsimp only; omega⟩]
  exact unpacked_pos canonical.positive

theorem toFloat_exact (positive : 0 < n) (bits : n < 2 ^ 53) : Exact n.toUInt64.toFloat.toModel.unpack n := by
  refine ⟨_, _, _, toFloat_unpack positive bits, ?_⟩
  rw [zpow_neg, zpow_natCast]
  push_cast
  field_simp

theorem powersOfTen_parts : ∀ e : Fin 23,
    let power := getElem Float.exactlyRepresentablePowersOfTen e.1 e.2
    let p := BinaryParts.ofFloat power
    power.isFinite = true ∧ p.negative = false ∧ 0 < p.magnitude ∧
      p.magnitude * 2 ^ p.power.toNat = 10 ^ e.1 * 2 ^ (-p.power).toNat := by
  decide +kernel

theorem powersOfTen_exact (inside : e < 23) :
    Exact (getElem Float.exactlyRepresentablePowersOfTen e inside).toModel.unpack (10 ^ e) := by
  obtain ⟨finite, positive, some, exact⟩ := powersOfTen_parts ⟨e, inside⟩
  dsimp only at finite positive some exact
  rw [toModel_eq finite, unpack_pack (finite_ofFloat finite)]
  generalize BinaryParts.ofFloat (getElem Float.exactlyRepresentablePowersOfTen e inside) = p at positive some exact ⊢
  refine ⟨p.magnitude, p.power, some, ?_, ?_⟩
  · rw [unpacked_pos some, positive]
    rfl
  · have split : p.power = (p.power.toNat : Int) - ((-p.power).toNat : Int) := by omega
    have whole : (p.magnitude : ℚ) * 2 ^ p.power.toNat = 2 ^ (-p.power).toNat * 10 ^ e := by
      rw [mul_comm (2 ^ _)]
      exact_mod_cast exact
    rw [split, zpow_sub₀ (by norm_num), zpow_natCast, zpow_natCast]
    field_simp
    exact whole

theorem Exact.div {f g : UnpackedFloat} {v w : ℚ} (left : Exact f v) (right : Exact g w) (canonical : Canonical m q)
    (rounds : Rounds m q (v / w)) : UnpackedFloat.div .binary64 f g = .finite .positive m q canonical.positive := by
  obtain ⟨m₁, e₁, positive₁, rfl, rfl⟩ := left
  obtain ⟨m₂, e₂, positive₂, rfl, rfl⟩ := right
  exact div_near canonical positive₁ positive₂ rounds

theorem exact_natCast (positive : 0 < n) : Exact (.finite .positive n 0 positive) n :=
  ⟨n, 0, positive, rfl, by rw [zpow_zero, mul_one]⟩

theorem places_lt {unit : Nat} (most : 10 ^ e ≤ n * 2 ^ unit) : 3 * e < n.log2 + 1 + unit := by
  refine (Nat.pow_lt_pow_iff_right (by decide : 1 < 2)).mp ?_
  calc 2 ^ (3 * e) = 8 ^ e := by rw [Nat.pow_mul]
    _ ≤ 10 ^ e := Nat.pow_le_pow_left (by decide) e
    _ ≤ n * 2 ^ unit := most
    _ < 2 ^ (n.log2 + 1) * 2 ^ unit := Nat.mul_lt_mul_of_pos_right Nat.lt_log2_self (Nat.two_pow_pos unit)
    _ = 2 ^ (n.log2 + 1 + unit) := (Nat.pow_add _ _ _).symm

-- No number near to a double has so many places that they are cut off.
theorem Rounds.places (rounds : Rounds m q (n / 10 ^ e)) (canonical : Canonical m q) :
    (e : Int) ≤ 2 ^ 11 + n.log2 := by
  have least := @below_le m q
  have some := canonical.positive
  have some : (2 : ℚ) ≤ ((4 * m - below m q : Nat) : ℚ) := by exact_mod_cast (by omega : 2 ≤ 4 * m - below m q)
  have lowest : ((2 : ℚ) ^ 1074)⁻¹ ≤ 2 ^ q := by
    rw [← zpow_natCast, ← zpow_neg]
    exact zpow_le_zpow_right₀ (by norm_num) canonical.lowest
  have product : 2 * ((2 : ℚ) ^ 1074)⁻¹ ≤ 4 * (n / 10 ^ e) :=
    (mul_le_mul some lowest (by positivity) (by positivity)).trans rounds.above
  have most : (10 : ℚ) ^ e ≤ n * 2 ^ 1075 := by
    rw [← div_eq_mul_inv, ← mul_div_assoc, div_le_div_iff₀ (by positivity) (by positivity)] at product
    rw [pow_succ]
    generalize (2 : ℚ) ^ 1074 = unit at product ⊢
    linarith
  have few : 3 * e < n.log2 + 1 + 1075 := places_lt (by exact_mod_cast most)
  omega

-- Decimal fractions are read as the nearest double.
theorem ofScientific_near (canonical : Canonical m q) (positive : 0 < n) (some : 0 < e)
    (rounds : Rounds m q (n / 10 ^ e)) : Float.ofScientific n true e = ofParts ⟨false, m, q⟩ := by
  have whole : unpacked ⟨false, m, q⟩ = .finite .positive m q canonical.positive := unpacked_pos canonical.positive
  unfold Float.ofScientific ofParts
  rw [whole]
  split
  · rename_i small
    have denominator := powersOfTen_exact (Nat.lt_succ_of_le small.2)
    have divided := (toFloat_exact positive small.1).div denominator canonical rounds
    exact congrArg (fun f => Float.ofModel (.pack f)) divided
  · have places := rounds.places canonical
    have numerator := exact_natCast positive
    have denominator : Exact (.finite .positive (10 ^ e) 0 (Nat.pow_pos (by decide))) (10 ^ e) := by
      have := exact_natCast (Nat.pow_pos (by decide) : 0 < 10 ^ e)
      rwa [Nat.cast_pow, Nat.cast_ofNat] at this
    have divided := numerator.div denominator canonical rounds
    have isNegative : Int.negOfNat e = -(e : Int) := Int.negOfNat_eq
    have least : ¬-(e : Int) > 2 ^ Format.binary64.exponentBits := by
      change ¬-(e : Int) > 2 ^ 11
      omega
    have most : ¬-(e : Int) < -((2 ^ Format.binary64.exponentBits : Int) + n.log2) := by
      change ¬-(e : Int) < -((2 ^ 11 : Int) + n.log2)
      omega
    have negative : ¬0 ≤ -(e : Int) := by omega
    have turned : (- -(e : Int)).toNat = e := by omega
    rw [if_pos rfl, isNegative]
    dsimp only
    unfold Float.Model.ofScientific UnpackedFloat.ofScientific
    rw [dif_neg (Nat.ne_of_gt positive), if_neg least, if_neg most, if_neg negative]
    simp only [turned]
    exact congrArg (fun f => Float.ofModel (.pack f)) divided

end TreePath.Binary
