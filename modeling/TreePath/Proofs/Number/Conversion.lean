import TreePath.Proofs.Number.Ordering
namespace TreePath.Binary
open Float.Model (Format UnpackedFloat totalExponent)
open Float.Model.UnpackedFloat

variable {a b m n : Nat} {q : Int}

theorem roundedMantissa_between (positive : 0 < b) :
    let rounded := (ofQuotient a b).roundedMantissa * b
    2 * rounded ≤ 2 * a + b ∧ 2 * a ≤ 2 * rounded + b := by
  have whole : a / b * b + a % b = a := by rw [Nat.mul_comm, Nat.div_add_mod]
  have small := Nat.mod_lt a positive
  have one : (a / b + 1) * b = a / b * b + b := Nat.succ_mul _ _
  rw [roundedMantissa_ofQuotient positive]
  split
  · omega
  · split
    · rcases Nat.mod_two_eq_zero_or_one (a / b) with even | odd
      · rw [even, Nat.add_zero]
        omega
      · rw [odd]
        omega
    · omega

-- What the last place of a whole number is worth if only the first 53 bits are kept.
def unit (n : Nat) : Nat := 2 ^ (n.log2 - 52)

-- The nearest whole number of 53 bits and zeros.
def nearestWhole (n : Nat) : Nat := (ofQuotient n (unit n)).roundedMantissa * unit n

theorem unit_pos : 0 < unit n := Nat.pow_pos (by decide)

theorem unit_mono (le : m ≤ n) : unit m ≤ unit n := by
  refine Nat.pow_le_pow_right (by decide) (Nat.sub_le_sub_right ?_ 52)
  rcases Nat.eq_zero_or_pos m with rfl | positive
  · exact Nat.zero_le _
  · exact (Nat.le_log2 (by omega)).mpr (Nat.le_trans (Nat.log2_self_le (Nat.ne_of_gt positive)) le)

theorem lt_unit : n < 2 ^ 53 * unit n := by
  have high : n < 2 ^ (n.log2 + 1) := Nat.lt_log2_self
  unfold unit
  rw [← Nat.pow_add]
  exact Nat.lt_of_lt_of_le high (Nat.pow_le_pow_right (by decide) (by omega))

theorem unit_le (more : 1 < unit n) : 2 ^ 52 * unit n ≤ n := by
  have wide : 52 < n.log2 := by
    refine Nat.lt_of_not_le fun few => ?_
    unfold unit at more
    rw [Nat.sub_eq_zero_of_le few] at more
    omega
  have some : n ≠ 0 := by
    rintro rfl
    exact absurd wide (by decide)
  have same : 52 + (n.log2 - 52) = n.log2 := by omega
  unfold unit
  rw [← Nat.pow_add, same]
  exact Nat.log2_self_le some

theorem nearestWhole_small (bits : n < 2 ^ 53) : nearestWhole n = n := by
  have few : n.log2 - 52 = 0 := by
    rcases Nat.eq_zero_or_pos n with rfl | positive
    · decide
    · have log := (Nat.log2_lt (Nat.ne_of_gt positive)).mpr bits
      omega
  have one : unit n = 1 := by
    unfold unit
    rw [few, Nat.pow_zero]
  have near := @roundedMantissa_between n 1 Nat.one_pos
  unfold nearestWhole
  rw [one]
  omega

theorem roundedMantissa_le : (ofQuotient n (unit n)).roundedMantissa ≤ 2 ^ 53 := by
  have near := (@roundedMantissa_between n (unit n) unit_pos).1
  have bits := @lt_unit n
  refine Nat.le_of_lt_succ (Nat.lt_of_mul_lt_mul_right (a := unit n) ?_)
  rw [Nat.succ_mul]
  omega

theorem le_roundedMantissa (more : 1 < unit n) : 2 ^ 52 ≤ (ofQuotient n (unit n)).roundedMantissa := by
  have near := (@roundedMantissa_between n (unit n) unit_pos).2
  have full := unit_le more
  refine Nat.le_of_lt_succ (Nat.lt_of_mul_lt_mul_right (a := unit n) ?_)
  rw [Nat.succ_mul]
  omega

-- A greater number has the same unit, and then it is rounded no lower; or it has a greater one, and then even the
-- least number of 53 such units is no less.
theorem nearestWhole_mono (le : m ≤ n) : nearestWhole m ≤ nearestWhole n := by
  rcases Nat.lt_or_eq_of_le le with less | rfl
  · rcases Nat.lt_or_eq_of_le (unit_mono le) with wider | same
    · have positive := @unit_pos m
      have double : unit m * 2 ≤ unit n := by
        have shift := (Nat.pow_lt_pow_iff_right (by decide)).mp wider
        rw [unit, ← Nat.pow_succ]
        exact Nat.pow_le_pow_right (by decide) shift
      calc nearestWhole m ≤ 2 ^ 53 * unit m := Nat.mul_le_mul_right _ roundedMantissa_le
        _ ≤ 2 ^ 52 * unit n := by omega
        _ ≤ nearestWhole n := Nat.mul_le_mul_right _ (le_roundedMantissa (by omega))
    · have near := (@roundedMantissa_between m (unit m) unit_pos).1
      have near' := (@roundedMantissa_between n (unit n) unit_pos).2
      unfold nearestWhole
      rw [same] at near ⊢
      refine Nat.mul_le_mul_right _ (Nat.le_of_lt_succ (Nat.lt_of_mul_lt_mul_right (a := unit n) ?_))
      rw [Nat.succ_mul]
      omega
  · exact Nat.le_refl _

theorem scaled_split {i j : Nat} (shift : (q + 1074).toNat = i + j) : scaled m q = m * 2 ^ i * 2 ^ j := by
  rw [scaled, shift, Nat.pow_add, Nat.mul_assoc]

theorem ofQuotient_scaled {c : Nat} (positive : 0 < b) (some : 0 < c) :
    ofQuotient (a * c) (b * c) = ofQuotient a b := by
  have half : b * c ≤ 2 * (a % b * c) ↔ b ≤ 2 * (a % b) := by
    rw [← Nat.mul_assoc]
    exact Nat.mul_le_mul_right_iff some
  have sticky : a % b * c ≠ 0 ∧ 2 * (a % b * c) ≠ b * c ↔ a % b ≠ 0 ∧ 2 * (a % b) ≠ b := by
    rw [← Nat.mul_assoc, Ne, Ne, Nat.mul_right_cancel_iff some, Nat.mul_eq_zero]
    simp only [Nat.ne_of_gt some, or_false, ne_eq]
  rw [ofQuotient_eq (Nat.mul_pos positive some), ofQuotient_eq positive, Nat.mul_div_mul_right _ _ some,
    Nat.mul_mod_mul_right, decide_eq_decide.mpr half, decide_eq_decide.mpr sticky]

-- A whole number of more than 53 bits is rounded to so many; if a bit is carried out of them, the power goes up.
theorem round_whole (sign : Sign) (wide : 2 ^ 53 ≤ n) : ∃ m q some,
    roundWithAccuracy .binary64 sign (n * 2 ^ 53) (-53) .exact = .finite sign m q some ∧ Canonical m q ∧
      q ≤ n.log2 ∧ scaled m q = nearestWhole n * 2 ^ 1074 := by
  have positive : 0 < n := by omega
  have log : 53 ≤ n.log2 := (Nat.le_log2 (Nat.ne_of_gt positive)).mpr wide
  have more : 1 < unit n := Nat.one_lt_two_pow (by omega)
  have power : 1 * 2 ^ (n.log2 + 1) = unit n * 2 ^ 53 := by
    rw [Nat.one_mul, unit, ← Nat.pow_add]
    congr 1
    omega
  have isLog : (n * 2 ^ 53 / 1).log2 = n.log2 + 53 := by
    refine log2_quotient Nat.one_pos ?_ ?_
    · rw [Nat.mul_one, Nat.pow_add]
      exact Nat.mul_le_mul_right _ (Nat.log2_self_le (Nat.ne_of_gt positive))
    · rw [Nat.mul_one, Nat.add_right_comm, Nat.pow_add]
      exact Nat.mul_lt_mul_of_pos_right Nat.lt_log2_self (by decide)
  have isUnit : Format.binary64.targetExponent (totalExponent (n * 2 ^ 53 / 1) (-53)) = -53 + (n.log2 + 1 : Nat) := by
    rw [targetExponent_eq, totalExponent, isLog]
    omega
  have rounded : (ofQuotient (n * 2 ^ 53) (1 * 2 ^ (n.log2 + 1))).roundedMantissa =
      (ofQuotient n (unit n)).roundedMantissa := by
    rw [power, ofQuotient_scaled unit_pos (by decide)]
  have exact : roundWithAccuracy .binary64 sign (n * 2 ^ 53) (-53) .exact =
      roundWithAccuracy .binary64 sign (n * 2 ^ 53 / 1) (-53) (accuracyOfFraction (n * 2 ^ 53 % 1) 1) := by
    rw [Nat.div_one, Nat.mod_one]
    rfl
  have least := le_roundedMantissa more
  have most := @roundedMantissa_le n
  have value : nearestWhole n = (ofQuotient n (unit n)).roundedMantissa * unit n := rfl
  rw [exact]
  generalize (ofQuotient n (unit n)).roundedMantissa = r at rounded least most value
  rcases Nat.lt_or_eq_of_le most with bits | carried
  · have canonical : Canonical r (-53 + (n.log2 + 1 : Nat)) := ⟨by omega, bits, by omega, fun _ => least⟩
    refine ⟨r, _, canonical.positive, ?_, canonical, by omega, ?_⟩
    · exact roundWithAccuracy_ofQuotient Nat.one_pos canonical.positive isUnit rounded (carry_none bits (by omega))
    · have shift : (-53 + (n.log2 + 1 : Nat) + 1074 : Int).toNat = n.log2 - 52 + 1074 := by omega
      exact (scaled_split shift).trans (congrArg (· * 2 ^ 1074) value.symm)
  · subst carried
    have canonical : Canonical (2 ^ 52) (-53 + (n.log2 + 1 : Nat) + 1) :=
      ⟨by decide, by decide, by omega, fun _ => Nat.le_refl _⟩
    refine ⟨2 ^ 52, _, canonical.positive, ?_, canonical, by omega, ?_⟩
    · exact roundWithAccuracy_ofQuotient Nat.one_pos canonical.positive isUnit rounded (carry_one (by omega))
    · have shift : (-53 + (n.log2 + 1 : Nat) + 1 + 1074 : Int).toNat = n.log2 - 52 + 1 + 1074 := by omega
      have double : 2 ^ 52 * 2 ^ (n.log2 - 52 + 1) = nearestWhole n := by
        rw [value, unit, Nat.pow_succ]
        omega
      exact (scaled_split shift).trans (congrArg (· * 2 ^ 1074) double)

theorem unpack_pack_finite (sign : Sign) (some : 0 < m) (canonical : Canonical m q) (inside : q ≤ 971) :
    (Float.Model.pack (.finite sign m q some)).unpack = .finite sign m q some := by
  have whole : ∀ negative, unpacked ⟨negative, m, q⟩ = .finite (signOf negative) m q some :=
    fun _ => unpacked_pos some
  have kept : ∀ negative, (Float.Model.pack (unpacked ⟨negative, m, q⟩)).unpack = unpacked ⟨negative, m, q⟩ :=
    fun _ => unpack_pack fun _ => ⟨canonical, inside⟩
  cases sign with
  | positive =>
    have positive := kept false
    rwa [whole] at positive
  | negative =>
    have negative := kept true
    rwa [whole] at negative

theorem mul_one (canonical : Canonical m q) (one : 0 < 2 ^ 52) :
    UnpackedFloat.mul .binary64 (.finite .positive m q canonical.positive) (.finite .positive (2 ^ 52) (-52) one) =
      .finite .positive m q canonical.positive := by
  have positive := canonical.positive
  have near : Near m q (m * 2 ^ 52) (1 * 2 ^ 52) := by
    have less := @below_pos m q
    have few := @below_le m q
    exact ⟨by omega, by omega, fun _ => ⟨by omega, by omega⟩⟩
  have rounded : roundWithAccuracy .binary64 .positive (m * 2 ^ 52 / 1) (q + -52)
      (accuracyOfFraction (m * 2 ^ 52 % 1) 1) = .finite .positive m q positive :=
    roundWithAccuracy_near canonical Nat.one_pos (by omega) (.inr (by omega)) near
  rw [Nat.div_one, Nat.mod_one] at rounded
  exact rounded

-- The double is what the integer is rounded to.
theorem ofNat_finite (positive : 0 < n) (inside : n < 2 ^ 64) : ∃ m q some,
    (Float.ofNat n).toModel.unpack = .finite .positive m q some ∧ Canonical m q ∧ q ≤ 971 ∧
      scaled m q = nearestWhole n * 2 ^ 1074 := by
  change ∃ m q some, (Float.ofScientific n false 0).toModel.unpack = .finite .positive m q some ∧ _
  unfold Float.ofScientific
  split
  · rename_i small
    have canonical := canonical_shifted positive small.1
    have one : (getElem Float.exactlyRepresentablePowersOfTen 0 (by decide)).toModel.unpack =
        .finite .positive (2 ^ 52) (-52) (by decide) := rfl
    have kept := unpack_pack_finite .positive canonical.positive canonical (by omega)
    refine ⟨_, _, canonical.positive, ?_, canonical, by omega, ?_⟩
    · refine Eq.trans ?_ kept
      refine congrArg (fun f => (Float.Model.pack f).unpack) ?_
      refine Eq.trans ?_ (mul_one canonical (by decide))
      rw [← toFloat_unpack positive small.1, ← one]
    · have shift : (-((52 - n.log2 : Nat) : Int) + 1074).toNat = 1074 - (52 - n.log2) := by omega
      have places : 52 - n.log2 + (1074 - (52 - n.log2)) = 1074 := by omega
      rw [nearestWhole_small small.1, scaled, shift, Nat.mul_assoc, ← Nat.pow_add]
      exact congrArg (fun power => n * 2 ^ power) places
  · rename_i large
    have wide : 2 ^ 53 ≤ n := Nat.not_lt.mp fun small => large ⟨small, by decide⟩
    obtain ⟨m, q, some, rounded, canonical, power, value⟩ := round_whole .positive wide
    have log : n.log2 < 64 := (Nat.log2_lt (Nat.ne_of_gt positive)).mpr inside
    refine ⟨m, q, some, ?_, canonical, by omega, value⟩
    refine Eq.trans ?_ (unpack_pack_finite .positive some canonical (by omega))
    refine congrArg (fun f => (Float.Model.pack f).unpack) ?_
    rw [← rounded]
    change (if zero : n = 0 then UnpackedFloat.zero .positive
      else if (0 : Int) > 2 ^ 11 then .infinity .positive
      else if (0 : Int) < -((2 ^ 11 : Int) + n.log2) then .zero .positive
      else if (0 : Int) ≤ 0 then
        UnpackedFloat.mul .binary64 (.finite .positive (n <<< 53) (-53) _) (.finite .positive (10 ^ 0) 0 _)
      else _) = _
    rw [dif_neg (Nat.ne_of_gt positive), if_neg (by decide), if_neg (by omega), if_pos (Int.le_refl 0)]
    change roundWithAccuracy .binary64 .positive (n <<< 53 * 1) (-53) .exact = _
    rw [Nat.shiftLeft_eq, Nat.mul_one]

-- What an integer is rounded to.
def nearest : Int → Int
  | .ofNat n => nearestWhole n
  | .negSucc n => -(nearestWhole (n + 1) : Int)

theorem nearest_mono {i j : Int} (le : i ≤ j) : nearest i ≤ nearest j := by
  cases i with
  | ofNat m =>
    cases j with
    | ofNat n => exact Int.ofNat_le.mpr (nearestWhole_mono (Int.ofNat_le.mp le))
    | negSucc n => exact absurd (Int.le_trans (Int.natCast_nonneg m) le) (Int.not_le.mpr (Int.negSucc_lt_zero n))
  | negSucc m =>
    cases j with
    | ofNat n => exact Int.le_trans (Int.neg_nonpos_of_nonneg (Int.natCast_nonneg _)) (Int.natCast_nonneg _)
    | negSucc n => exact Int.neg_le_neg (Int.ofNat_le.mpr (nearestWhole_mono (by omega)))

-- Conversion never fails, and the double stands where the rounded integer does.
theorem standing_ofInteger (n : Int64) :
    (ofInteger n).isNaN = false ∧ standing (ofInteger n) = nearest n.toInt * (2 ^ 1074 : Nat) := by
  have inside : n.toInt.natAbs < 2 ^ 64 := by
    have least := n.le_toInt
    have most := n.toInt_lt
    omega
  unfold ofInteger
  generalize n.toInt = i at inside ⊢
  cases i with
  | ofNat n =>
    rcases Nat.eq_zero_or_pos n with rfl | positive
    · have none : nearest (.ofNat 0) = 0 := congrArg Nat.cast (nearestWhole_small (by decide))
      refine ⟨rfl, ?_⟩
      rw [none, Int.zero_mul]
      rfl
    · obtain ⟨m, q, some, unpacks, _, _, value⟩ := ofNat_finite positive inside
      have same : (Float.ofInt (.ofNat n)).toModel.unpack = .finite .positive m q some := unpacks
      refine ⟨(standing_finite same).1, (standing_finite same).2.trans ?_⟩
      exact (congrArg Nat.cast value).trans (Int.natCast_mul _ _)
  | negSucc n =>
    obtain ⟨m, q, some, unpacks, canonical, power, value⟩ := ofNat_finite (Nat.succ_pos n) inside
    have negated : (Float.ofInt (.negSucc n)).toModel.unpack = .finite .negative m q some := by
      refine Eq.trans ?_ (unpack_pack_finite .negative some canonical power)
      refine congrArg (fun f => (Float.Model.pack f).unpack) ?_
      change (Float.ofNat (n + 1)).toModel.unpack.neg = _
      rw [unpacks]
      rfl
    refine ⟨(standing_finite negated).1, (standing_finite negated).2.trans ?_⟩
    rw [nearest, Int.neg_mul]
    exact congrArg (fun i : Nat => (-i : Int)) value

end TreePath.Binary
