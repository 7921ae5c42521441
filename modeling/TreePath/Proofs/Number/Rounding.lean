import Mathlib.Algebra.Order.Field.Power
import Mathlib.Algebra.Order.Field.Rat
import Mathlib.Tactic.FieldSimp
import Mathlib.Tactic.IntervalCases
import Mathlib.Tactic.Positivity
import Mathlib.Tactic.Ring
import TreePath.Number.Binary
namespace TreePath.Binary
open Float.Model (Format UnpackedFloat totalExponent)
open Float.Model.UnpackedFloat

-- The magnitude and the power of a double that is not zero: all 53 bits are used, unless the power is the lowest.
structure Canonical (m : Nat) (q : Int) : Prop where
  positive : 0 < m
  bits : m < 2 ^ 53
  lowest : -1074 ≤ q
  full : -1074 < q → 2 ^ 52 ≤ m

-- How near the numbers below it come that round to another double, in quarters of the last place.
def below (m : Nat) (q : Int) : Nat := if m = Nat.pow 2 52 ∧ -1074 < q then 1 else 2

variable {a b m n k : Nat} {q t : Int} {sign : Sign}

theorem below_pos : 0 < below m q := by
  unfold below
  split <;> decide

theorem below_le : below m q ≤ 2 := by
  unfold below
  split <;> decide

-- A quotient, with what the bits behind the last place say about the remainder.
def ofQuotient (a b : Nat) : ExtendedMantissa := .ofMantissaAndAccuracy (a / b) (accuracyOfFraction (a % b) b)

theorem ofQuotient_eq (positive : 0 < b) : ofQuotient a b =
    ⟨a / b, decide (b ≤ 2 * (a % b)), decide (a % b ≠ 0 ∧ 2 * (a % b) ≠ b)⟩ := by
  unfold ofQuotient accuracyOfFraction
  split
  · rename_i none
    simp [none, ExtendedMantissa.ofMantissaAndAccuracy, Nat.pos_iff_ne_zero.mp positive]
  · rename_i some
    rcases Nat.lt_trichotomy (2 * (a % b)) b with less | equal | more
    · rw [Nat.compare_eq_lt.mpr less]
      simp [ExtendedMantissa.ofMantissaAndAccuracy, some, Nat.not_le.mpr less, Nat.ne_of_lt less]
    · rw [Nat.compare_eq_eq.mpr equal]
      simp [ExtendedMantissa.ofMantissaAndAccuracy, equal]
    · rw [Nat.compare_eq_gt.mpr more]
      simp [ExtendedMantissa.ofMantissaAndAccuracy, some, Nat.le_of_lt more, Nat.ne_of_gt more]

theorem shiftRightOne_ofQuotient (positive : 0 < b) : (ofQuotient a b).shiftRightOne = ofQuotient a (b * 2) := by
  have halves : a % (b * 2) = a % b + b * (a / b % 2) := Nat.mod_mul
  have small := Nat.mod_lt a positive
  have odd : (a / b % 2 != 0) = decide (b * 2 ≤ 2 * (a % (b * 2))) := by
    rw [Bool.eq_iff_iff, bne_iff_ne, decide_eq_true_iff, halves]
    rcases Nat.mod_two_eq_zero_or_one (a / b) with even | odd
    · rw [even]
      omega
    · rw [odd]
      omega
  have sticky : b ≤ 2 * (a % b) ∨ a % b ≠ 0 ∧ 2 * (a % b) ≠ b ↔
      a % (b * 2) ≠ 0 ∧ 2 * (a % (b * 2)) ≠ b * 2 := by
    rw [halves]
    rcases Nat.mod_two_eq_zero_or_one (a / b) with even | odd
    · rw [even]
      omega
    · rw [odd]
      omega
  rw [ofQuotient_eq positive, ofQuotient_eq (Nat.mul_pos positive (by decide)), ExtendedMantissa.shiftRightOne,
    Nat.div_div_eq_div_mul, ← Bool.decide_or, decide_eq_decide.mpr sticky]
  dsimp only
  rw [odd]

theorem shiftRight_ofQuotient (positive : 0 < b) : ofQuotient a b >>> k = ofQuotient a (b * 2 ^ k) := by
  induction k with
  | zero => rw [Nat.pow_zero, Nat.mul_one]; rfl
  | succ k ih =>
    change (ofQuotient a b >>> k).shiftRightOne = _
    rw [ih, shiftRightOne_ofQuotient (Nat.mul_pos positive (Nat.pow_pos (by decide))), Nat.mul_assoc, Nat.pow_succ]

theorem roundedMantissa_ofQuotient (positive : 0 < b) : (ofQuotient a b).roundedMantissa =
    if 2 * (a % b) < b then a / b else if 2 * (a % b) = b then a / b + a / b % 2 else a / b + 1 := by
  unfold ofQuotient accuracyOfFraction
  split
  · rename_i none
    rw [none, if_pos positive]
    rfl
  · rcases Nat.lt_trichotomy (2 * (a % b)) b with less | equal | more
    · rw [Nat.compare_eq_lt.mpr less, if_pos less]
      rfl
    · rw [Nat.compare_eq_eq.mpr equal, if_neg (Nat.not_lt.mpr (Nat.le_of_eq equal.symm)), if_pos equal]
      rfl
    · rw [Nat.compare_eq_gt.mpr more, if_neg (Nat.lt_asymm more), if_neg (Nat.ne_of_gt more)]
      rfl

-- The quotient is rounded to the number that is less than half a unit away; an even one may be half a unit away.
theorem roundedMantissa_near (positive : 0 < b) (above : 2 * (m * b) ≤ 2 * a + b) (under : 2 * a ≤ 2 * (m * b) + b)
    (strict : m % 2 = 1 → 2 * (m * b) < 2 * a + b ∧ 2 * a < 2 * (m * b) + b) :
    (ofQuotient a b).roundedMantissa = m := by
  have whole : a / b * b + a % b = a := by rw [Nat.mul_comm, Nat.div_add_mod]
  have small := Nat.mod_lt a positive
  have near : m = a / b ∨ m = a / b + 1 := by
    rcases Nat.lt_trichotomy m (a / b) with less | equal | more
    · have next : m * b + b ≤ a / b * b := by
        rw [← Nat.succ_mul]
        exact Nat.mul_le_mul_right b less
      omega
    · exact .inl equal
    · refine .inr (Nat.le_antisymm (Nat.not_lt.mp fun far => ?_) more)
      have next : a / b * b + b + b ≤ m * b := by
        rw [← Nat.succ_mul, ← Nat.succ_mul]
        exact Nat.mul_le_mul_right b far
      omega
  rw [roundedMantissa_ofQuotient positive]
  rcases near with rfl | rfl
  · split
    · rfl
    · split <;> omega
  · rw [Nat.succ_mul (a / b)] at above under strict
    split
    · omega
    · split <;> omega

theorem targetExponent_eq (e : Int) : Format.binary64.targetExponent e = max (e - 53) (-1074) := rfl

-- Nothing is carried out of 53 bits.
theorem carry_none (bits : n < 2 ^ 53) (lowest : -1074 ≤ t) :
    shiftToTargetExponent .binary64 n t .exact = (⟨n, false, false⟩, t) := by
  have log : n.log2 < 53 := by
    rcases Nat.eq_zero_or_pos n with rfl | positive
    · decide
    · exact (Nat.log2_lt (Nat.ne_of_gt positive)).mpr bits
  have still : (Format.binary64.targetExponent (totalExponent n t) - t).toNat = 0 := by
    rw [targetExponent_eq, totalExponent]
    omega
  unfold shiftToTargetExponent shiftToExponent
  dsimp only
  rw [still]
  exact congrArg (Prod.mk _) (Int.add_zero t)

theorem carry_one (lowest : -1074 ≤ t) :
    shiftToTargetExponent .binary64 (2 ^ 53) t .exact = (⟨2 ^ 52, false, false⟩, t + 1) := by
  have once : (Format.binary64.targetExponent (totalExponent (2 ^ 53) t) - t).toNat = 1 := by
    rw [targetExponent_eq, totalExponent, Nat.log2_two_pow]
    omega
  unfold shiftToTargetExponent shiftToExponent
  dsimp only
  rw [once]
  rfl

theorem roundWithAccuracy_ofQuotient (positive : 0 < b) (some : 0 < m)
    (unit : Format.binary64.targetExponent (totalExponent (a / b) t) = t + k)
    (rounded : (ofQuotient a (b * 2 ^ k)).roundedMantissa = n) {round sticky : Bool}
    (carried : shiftToTargetExponent .binary64 n (t + k) .exact = (⟨m, round, sticky⟩, q)) :
    roundWithAccuracy .binary64 sign (a / b) t (accuracyOfFraction (a % b) b) = .finite sign m q some := by
  have first : shiftToTargetExponent .binary64 (a / b) t (accuracyOfFraction (a % b) b) =
      (ofQuotient a (b * 2 ^ k), t + k) := by
    have turns : (t + k - t).toNat = k := by omega
    unfold shiftToTargetExponent shiftToExponent
    dsimp only
    rw [unit, turns, ← shiftRight_ofQuotient positive]
    rfl
  unfold roundWithAccuracy
  rw [first]
  dsimp only
  rw [rounded, carried]
  exact dif_neg (Nat.ne_of_gt some)

-- What lies so near to a double that it rounds to it: `a / b`, in units of the double's last place.
structure Near (m : Nat) (q : Int) (a b : Nat) : Prop where
  above : (4 * m - below m q) * b ≤ 4 * a
  under : 4 * a ≤ (4 * m + 2) * b
  strict : m % 2 = 1 → (4 * m - below m q) * b < 4 * a ∧ 4 * a < (4 * m + 2) * b

theorem log2_quotient {bits : Nat} (positive : 0 < b) (least : 2 ^ bits * b ≤ a) (most : a < 2 ^ (bits + 1) * b) :
    (a / b).log2 = bits := by
  have above : 2 ^ bits ≤ a / b := (Nat.le_div_iff_mul_le positive).mpr least
  have some : a / b ≠ 0 := Nat.ne_of_gt (Nat.lt_of_lt_of_le (Nat.pow_pos (by decide)) above)
  exact (Nat.log2_eq_iff some).mpr ⟨above, (Nat.div_lt_iff_lt_mul positive).mpr most⟩

-- A number below the least one with all bits has a smaller unit, and is rounded up to what is carried over.
theorem roundWithAccuracy_carried (positive : 0 < b) (some : 0 < 2 ^ 52) (lowest : -1074 ≤ t + k)
    (above : (2 ^ 54 - 1) * (b * 2 ^ k) ≤ 2 * a) (low : a < 2 ^ 53 * (b * 2 ^ k)) :
    roundWithAccuracy .binary64 sign (a / b) t (accuracyOfFraction (a % b) b) =
      .finite sign (2 ^ 52) (t + k + 1) some := by
  have wide : 0 < b * 2 ^ k := Nat.mul_pos positive (Nat.pow_pos (by decide))
  have bits : (a / b).log2 = 52 + k := by
    refine log2_quotient positive ?_ ?_
    · rw [Nat.pow_add, Nat.mul_assoc, Nat.mul_comm (2 ^ k)]
      omega
    · rw [Nat.add_right_comm, Nat.pow_add, Nat.mul_assoc, Nat.mul_comm (2 ^ k)]
      exact low
  have unit : Format.binary64.targetExponent (totalExponent (a / b) t) = t + k := by
    rw [targetExponent_eq, totalExponent, bits]
    omega
  have rounded : (ofQuotient a (b * 2 ^ k)).roundedMantissa = 2 ^ 53 :=
    roundedMantissa_near wide (by omega) (by omega) nofun
  exact roundWithAccuracy_ofQuotient positive some unit rounded (carry_one lowest)

theorem roundWithAccuracy_near (canonical : Canonical m q) (positive : 0 < b) (unit : q = t + k)
    (enough : t ≤ -1074 ∨ 2 ^ 52 * b ≤ a) (near : Near m q a (b * 2 ^ k)) :
    roundWithAccuracy .binary64 sign (a / b) t (accuracyOfFraction (a % b) b) =
      .finite sign m q canonical.positive := by
  have bits := canonical.bits
  have lowest := canonical.lowest
  have wide : 0 < b * 2 ^ k := Nat.mul_pos positive (Nat.pow_pos (by decide))
  have above := near.above
  have under := near.under
  have least := @below_le m q
  by_cases low : -1074 < q ∧ a < 2 ^ 52 * (b * 2 ^ k)
  · have full := canonical.full low.1
    have power : m = 2 ^ 52 := by
      refine Nat.le_antisymm (Nat.not_lt.mp fun more => ?_) full
      have : 2 ^ 54 * (b * 2 ^ k) ≤ (4 * m - below m q) * (b * 2 ^ k) := Nat.mul_le_mul_right _ (by omega)
      omega
    have one : below m q = 1 := if_pos ⟨power, low.1⟩
    cases k with
    | zero => omega
    | succ k =>
      have double : b * 2 ^ (k + 1) = 2 * (b * 2 ^ k) := by rw [Nat.pow_succ, ← Nat.mul_assoc, Nat.mul_comm]
      rw [double] at low above
      rw [one, power] at above
      subst power
      rw [roundWithAccuracy_carried positive canonical.positive (k := k) (by omega) (by omega) (by omega)]
      congr 1
      omega
  · have isUnit : Format.binary64.targetExponent (totalExponent (a / b) t) = t + k := by
      rw [targetExponent_eq, totalExponent]
      have most : a < 2 ^ (53 + k) * b := by
        rw [Nat.pow_add, Nat.mul_assoc, Nat.mul_comm (2 ^ k)]
        have : (4 * m + 2) * (b * 2 ^ k) < 2 ^ 55 * (b * 2 ^ k) := Nat.mul_lt_mul_of_pos_right (by omega) wide
        omega
      rcases Int.lt_or_le (-1074) q with more | equal
      · have full : 2 ^ (52 + k) * b ≤ a := by
          rw [Nat.pow_add, Nat.mul_assoc, Nat.mul_comm (2 ^ k)]
          omega
        rw [log2_quotient positive full (by rwa [Nat.add_right_comm])]
        omega
      · have few : (a / b).log2 < 53 + k := by
          rcases Nat.eq_zero_or_pos (a / b) with none | some
          · rw [none]
            simp
          · exact (Nat.log2_lt (Nat.ne_of_gt some)).mpr ((Nat.div_lt_iff_lt_mul positive).mpr most)
        omega
    have rounded : (ofQuotient a (b * 2 ^ k)).roundedMantissa = m := by
      have strict := near.strict
      have less : below m q * (b * 2 ^ k) ≤ 2 * (b * 2 ^ k) := Nat.mul_le_mul_right _ least
      rw [Nat.sub_mul, Nat.mul_assoc] at above strict
      rw [Nat.add_mul, Nat.mul_assoc] at under strict
      exact roundedMantissa_near wide (by omega) (by omega) (by omega)
    have carried : shiftToTargetExponent .binary64 m (t + k) .exact = (⟨m, false, false⟩, q) := by
      rw [← unit]
      exact carry_none bits lowest
    exact roundWithAccuracy_ofQuotient positive canonical.positive isUnit rounded carried

-- The same for a number `v`, whatever its unit.
structure Rounds (m : Nat) (q : Int) (v : ℚ) : Prop where
  above : ((4 * m - below m q : Nat) : ℚ) * 2 ^ q ≤ 4 * v
  under : 4 * v ≤ ((4 * m + 2 : Nat) : ℚ) * 2 ^ q
  strict : m % 2 = 1 → ((4 * m - below m q : Nat) : ℚ) * 2 ^ q < 4 * v ∧ 4 * v < ((4 * m + 2 : Nat) : ℚ) * 2 ^ q

variable {e₁ e₂ : Int} {m₁ m₂ : Nat} {sign₁ sign₂ : Sign} {v : ℚ}

-- Fractions of one unit, brought to whole numbers.
theorem scaled_eq (positive : 0 < b) (unit : q = t + k) : ∃ f : ℚ, 0 < f ∧
    (∀ n : Nat, (n : ℚ) * 2 ^ q = f * (n * (b * 2 ^ k) : Nat)) ∧ 4 * ((a : ℚ) / b * 2 ^ t) = f * (4 * a : Nat) := by
  have some : (b : ℚ) ≠ 0 := Nat.cast_ne_zero.mpr (Nat.ne_of_gt positive)
  have isPositive : (0 : ℚ) < b := Nat.cast_pos.mpr positive
  refine ⟨2 ^ t / b, by positivity, fun n => ?_, ?_⟩
  · rw [unit, zpow_add₀ (by norm_num), zpow_natCast]
    push_cast
    field_simp
  · push_cast
    field_simp

theorem Rounds.near (rounds : Rounds m q v) (positive : 0 < b) (unit : q = t + k) (same : v = a / b * 2 ^ t) :
    Near m q a (b * 2 ^ k) := by
  obtain ⟨f, isPositive, scaled, whole⟩ := @scaled_eq a b k q t positive unit
  have above := rounds.above
  have under := rounds.under
  have strict := rounds.strict
  rw [same, whole, scaled] at above under
  rw [same, whole, scaled, scaled] at strict
  simp only [mul_le_mul_iff_right₀ isPositive, mul_lt_mul_iff_right₀ isPositive, Nat.cast_le, Nat.cast_lt] at *
  exact ⟨above, under, strict⟩

-- A quotient of at least 53 bits has no coarser unit than the double near to it.
theorem Rounds.unit_le (rounds : Rounds m q v) (bits : m < 2 ^ 53) (positive : 0 < b) (enough : 2 ^ 52 * b ≤ a)
    (same : v = a / b * 2 ^ t) : t ≤ q := by
  have isPositive : (0 : ℚ) < b := Nat.cast_pos.mpr positive
  have power : (0 : ℚ) < 2 ^ t := by positivity
  have most : ((4 * m + 2 : Nat) : ℚ) < 2 ^ (55 : Int) := by
    exact_mod_cast (by omega : 4 * m + 2 < 2 ^ 55)
  have least : (2 : ℚ) ^ (52 : Int) ≤ a / b := by
    rw [le_div_iff₀ isPositive]
    exact_mod_cast enough
  have less : (2 : ℚ) ^ (54 + t) < 2 ^ (55 + q) := by
    calc (2 : ℚ) ^ (54 + t) = 4 * (2 ^ (52 : Int) * 2 ^ t) := by rw [zpow_add₀ (by norm_num)]; norm_num; ring
      _ ≤ 4 * (a / b * 2 ^ t) := by gcongr
      _ = 4 * v := by rw [same]
      _ ≤ ((4 * m + 2 : Nat) : ℚ) * 2 ^ q := rounds.under
      _ < 2 ^ (55 : Int) * 2 ^ q := by gcongr
      _ = 2 ^ (55 + q) := by rw [zpow_add₀ (by norm_num)]
  have := (zpow_lt_zpow_iff_right₀ (by norm_num)).mp less
  omega

-- Division goes to the nearest double.
theorem div_near (canonical : Canonical m q) (positive₁ : 0 < m₁) (positive₂ : 0 < m₂)
    (rounds : Rounds m q (m₁ * 2 ^ e₁ / (m₂ * 2 ^ e₂))) :
    div .binary64 (.finite sign₁ m₁ e₁ positive₁) (.finite sign₂ m₂ e₂ positive₂) =
      .finite (sign₁ / sign₂) m q canonical.positive := by
  have lowest := canonical.lowest
  unfold div divCore
  dsimp only
  rw [targetExponent_eq, totalExponent, totalExponent]
  generalize isUnit : min (e₁ - e₂)
    (max ((m₁.log2 : Int) + 1 + e₁ - ((m₂.log2 : Int) + 1 + e₂) - 53) (-1074)) = t
  generalize isShift : (e₁ - e₂ - t).toNat = shift
  have along : e₁ - e₂ = t + shift := by omega
  rw [Nat.shiftLeft_eq]
  have same : (m₁ : ℚ) * 2 ^ e₁ / (m₂ * 2 ^ e₂) = (m₁ * 2 ^ shift : Nat) / m₂ * 2 ^ t := by
    have split : (2 : ℚ) ^ e₁ = 2 ^ e₂ * (2 ^ t * 2 ^ shift) := by
      rw [← zpow_natCast, ← zpow_add₀ (by norm_num), ← zpow_add₀ (by norm_num), ← along]
      congr 1
      omega
    have some : (m₂ : ℚ) ≠ 0 := Nat.cast_ne_zero.mpr (Nat.ne_of_gt positive₂)
    have power : (2 : ℚ) ^ e₂ ≠ 0 := by positivity
    rw [split]
    push_cast
    field_simp
  have enough : t ≤ -1074 ∨ 2 ^ 52 * m₂ ≤ m₁ * 2 ^ shift := by
    refine or_iff_not_imp_left.mpr fun large => ?_
    have low : 2 ^ m₁.log2 ≤ m₁ := Nat.log2_self_le (Nat.ne_of_gt positive₁)
    have high : m₂ < 2 ^ (m₂.log2 + 1) := Nat.lt_log2_self
    calc 2 ^ 52 * m₂ ≤ 2 ^ 52 * 2 ^ (m₂.log2 + 1) := Nat.mul_le_mul_left _ (Nat.le_of_lt high)
      _ ≤ 2 ^ m₁.log2 * 2 ^ shift := by
        rw [← Nat.pow_add, ← Nat.pow_add]
        exact Nat.pow_le_pow_right (by decide) (by omega)
      _ ≤ m₁ * 2 ^ shift := Nat.mul_le_mul_right _ low
  have inside : t ≤ q := by
    rcases enough with small | enough
    · omega
    · exact rounds.unit_le canonical.bits positive₂ enough same
  have unit : q = t + (q - t).toNat := by omega
  exact roundWithAccuracy_near canonical positive₂ unit enough (rounds.near positive₂ unit same)

end TreePath.Binary
