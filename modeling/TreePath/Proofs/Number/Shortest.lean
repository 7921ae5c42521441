import TreePath.Number.FloatText
import TreePath.Proofs.Number.Rounding
import TreePath.Proofs.Token.Words
namespace TreePath
open Binary

-- The parts of doubles below 2 ^ 54, which the numbers with a fraction are among.
structure Shortest.Normal (m : Nat) (q : Int) : Prop extends Canonical m q where
  power : q < 2

variable {i : Shortest.Interval} {m n k count turns : Nat} {q unit point : Int}

-- 28 / 93 is a little more than the logarithm of two.
theorem two_pow_le_ten_pow {a b : Nat} (enough : a * 28 ≤ b * 93) : 2 ^ a ≤ 10 ^ b := by
  have unit : 2 ^ 93 ≤ 10 ^ 28 := by decide
  refine (Nat.pow_le_pow_iff_left (by decide : 93 ≠ 0)).mp ?_
  calc (2 ^ a) ^ 93 = (2 ^ 93) ^ a := by rw [← Nat.pow_mul, ← Nat.pow_mul, Nat.mul_comm]
    _ ≤ (10 ^ 28) ^ a := Nat.pow_le_pow_left unit a
    _ = 10 ^ (a * 28) := by rw [← Nat.pow_mul, Nat.mul_comm]
    _ ≤ 10 ^ (b * 93) := Nat.pow_le_pow_right (by decide) enough
    _ = (10 ^ b) ^ 93 := by rw [Nat.pow_mul]

-- 3 / 10 is a little less.
theorem ten_pow_le_two_pow {a b : Nat} (enough : b * 10 ≤ a * 3) : 10 ^ b ≤ 2 ^ a := by
  refine (Nat.pow_le_pow_iff_left (by decide : 3 ≠ 0)).mp ?_
  calc (10 ^ b) ^ 3 = (10 ^ 3) ^ b := by rw [← Nat.pow_mul, ← Nat.pow_mul, Nat.mul_comm]
    _ ≤ (2 ^ 10) ^ b := Nat.pow_le_pow_left (by decide) b
    _ = 2 ^ (b * 10) := by rw [← Nat.pow_mul, Nat.mul_comm]
    _ ≤ 2 ^ (a * 3) := Nat.pow_le_pow_right (by decide) enough
    _ = (2 ^ a) ^ 3 := by rw [Nat.pow_mul]

namespace Shortest

theorem pointFrom_reaches (start : i.reaches (point - 1) = true) :
    i.reaches (pointFrom i turns point - 1) = true := by
  induction turns generalizing point with
  | zero => exact start
  | succ turns ih =>
    rw [pointFrom]
    split
    · rename_i reaches
      exact ih (by rwa [Int.add_sub_cancel])
    · exact start

theorem pointFrom_short (short : i.reaches (point + turns) = false) :
    i.reaches (pointFrom i turns point) = false := by
  induction turns generalizing point with
  | zero => simpa [pointFrom] using short
  | succ turns ih =>
    rw [pointFrom]
    split
    · refine ih ?_
      rw [← short]
      congr 1
      omega
    · rename_i reaches
      simpa using reaches

theorem of_small (small : q < 2) : Interval.of m q =
    ⟨4 * m - below m q, 4 * m, 4 * m + 2, 2 ^ (2 - q).toNat, decide (m % 2 = 0)⟩ := by
  have negative : ¬0 ≤ q - 2 := by omega
  unfold Interval.of
  dsimp only
  rw [if_neg negative, if_neg negative, Nat.mul_one, Nat.mul_one, Nat.mul_one, Int.neg_sub]
  rfl

-- The estimate of the power of ten is not too high.
theorem estimate_reaches (normal : Normal m q) :
    (Interval.of m q).reaches (((Nat.log2 m : Int) + q) * 30103 / 100000 - 2) = true := by
  have low : 2 ^ m.log2 ≤ m := Nat.log2_self_le (Nat.ne_of_gt normal.positive)
  have bits : m.log2 < 53 := (Nat.log2_lt (Nat.ne_of_gt normal.positive)).mpr normal.bits
  have lowest := normal.lowest
  have power := normal.power
  rw [of_small normal.power]
  unfold Interval.reaches
  generalize exponent : (m.log2 : Int) + q = e
  dsimp only
  split
  · rename_i nonneg
    rw [decide_eq_true_iff]
    have bound : 10 ^ (e * 30103 / 100000 - 2).toNat ≤ 2 ^ e.toNat := ten_pow_le_two_pow (by omega)
    calc 2 ^ (2 - q).toNat * 10 ^ (e * 30103 / 100000 - 2).toNat ≤ 2 ^ (2 - q).toNat * 2 ^ e.toNat :=
          Nat.mul_le_mul_left _ bound
      _ = 2 ^ (2 + m.log2) := by rw [← Nat.pow_add]; congr 1; omega
      _ ≤ 4 * m := by rw [Nat.pow_add]; exact Nat.mul_le_mul_left 4 low
  · rename_i negative
    rw [decide_eq_true_iff]
    have bound : 2 ^ (-e).toNat ≤ 10 ^ (-(e * 30103 / 100000 - 2)).toNat := two_pow_le_ten_pow (by omega)
    calc 2 ^ (2 - q).toNat ≤ 2 ^ (2 + m.log2 + (-e).toNat) := Nat.pow_le_pow_right (by decide) (by omega)
      _ = 4 * 2 ^ m.log2 * 2 ^ (-e).toNat := by rw [Nat.pow_add, Nat.pow_add]
      _ ≤ 4 * m * 10 ^ (-(e * 30103 / 100000 - 2)).toNat := Nat.mul_le_mul (Nat.mul_le_mul_left 4 low) bound

theorem point_le (bounded : i.value < i.denominator * 10 ^ 16) (reaches : i.reaches (point - 1) = true) :
    point ≤ 16 := by
  refine Int.not_lt.mp fun large => ?_
  have nonneg : 0 ≤ point - 1 := by omega
  unfold Interval.reaches at reaches
  rw [if_pos nonneg, decide_eq_true_iff] at reaches
  have more : 10 ^ 16 ≤ 10 ^ (point - 1).toNat := Nat.pow_le_pow_right (by decide) (by omega)
  exact absurd (Nat.lt_of_lt_of_le bounded (Nat.mul_le_mul_left _ more)) (Nat.not_lt.mpr reaches)

-- The steps of the grid of seventeen digits are small against the number.
theorem fine_of_reaches (reaches : i.reaches (point - 1) = true) (inside : point ≤ 16) :
    i.denominator * 10 ^ 16 ≤ i.value * 10 ^ (17 - point).toNat := by
  unfold Interval.reaches at reaches
  split at reaches
  · rw [decide_eq_true_iff] at reaches
    have exponent : 16 = (point - 1).toNat + (17 - point).toNat := by omega
    rw [exponent, Nat.pow_add, ← Nat.mul_assoc]
    exact Nat.mul_le_mul_right _ reaches
  · rw [decide_eq_true_iff] at reaches
    have exponent : (17 - point).toNat = (-(point - 1)).toNat + 16 := by omega
    rw [exponent, Nat.pow_add, ← Nat.mul_assoc]
    exact Nat.mul_le_mul_right _ reaches

def scale (unit : Int) : Nat := if unit < 0 then Nat.pow 10 (-unit).toNat else 1

theorem scale_pos : 0 < scale unit := by
  unfold scale
  split
  · exact Nat.pow_pos (by decide)
  · exact Nat.one_pos

def step (i : Interval) (unit : Int) : Nat :=
  if unit < 0 then i.denominator else i.denominator * Nat.pow 10 unit.toNat

def within (i : Interval) (unit : Int) (n : Nat) : Bool :=
  decide (i.low * scale unit < n * step i unit ∧ n * step i unit < i.high * scale unit) ||
    (i.closed && decide (i.low * scale unit = n * step i unit ∨ n * step i unit = i.high * scale unit))

theorem neighbour?_eq : neighbour? i unit =
    let floor := i.value * scale unit / step i unit
    match within i unit floor, within i unit (floor + 1) with
    | true, true =>
      some (if step i unit ≤ 2 * (i.value * scale unit - floor * step i unit) then floor + 1 else floor)
    | true, false => some floor
    | false, true => some (floor + 1)
    | false, false => none := rfl

-- The point lies between the ends, or is one of them if they belong to the interval.
structure Fits (i : Interval) (unit : Int) (n : Nat) : Prop where
  above : i.low * scale unit ≤ n * step i unit
  under : n * step i unit ≤ i.high * scale unit
  strict : i.closed = false → i.low * scale unit < n * step i unit ∧ n * step i unit < i.high * scale unit

theorem fits_of_within (ordered : i.low ≤ i.high) (inside : within i unit n = true) : Fits i unit n := by
  have ends : i.low * scale unit ≤ i.high * scale unit := Nat.mul_le_mul_right _ ordered
  simp only [within, Bool.or_eq_true, Bool.and_eq_true, decide_eq_true_iff] at inside
  refine ⟨by omega, by omega, fun isOpen => ?_⟩
  rw [isOpen] at inside
  exact inside.resolve_right nofun

theorem neighbour?_fits (ordered : i.low ≤ i.high) (found : neighbour? i unit = some n) : Fits i unit n := by
  refine fits_of_within ordered ?_
  rw [neighbour?_eq] at found
  dsimp only at found
  split at found
  · cases found
    split <;> assumption
  · cases found
    assumption
  · cases found
    assumption
  · cases found

theorem neighbour?_some (near : n = i.value * scale unit / step i unit ∨ n = i.value * scale unit / step i unit + 1)
    (above : i.low * scale unit < n * step i unit) (under : n * step i unit < i.high * scale unit) :
    ∃ n, neighbour? i unit = some n := by
  have inside : within i unit n = true := by simp [within, above, under]
  rw [neighbour?_eq]
  dsimp only
  rcases near with rfl | rfl
  all_goals
    rw [inside]
    split <;> simp_all

theorem search_found {c : Nat} (low : count ≤ c) (high : c < count + turns)
    (found : ∃ n, neighbour? i (point - c) = some n) : ∃ n c', search i point turns count = (n, c') ∧ c' ≤ c ∧
      neighbour? i (point - c') = some n := by
  induction turns generalizing count with
  | zero => omega
  | succ turns ih =>
    rw [search]
    split
    · rename_i n here
      exact ⟨n, count, rfl, low, here⟩
    · rename_i nothing
      obtain ⟨n, found⟩ := found
      have later : count ≠ c := by
        rintro rfl
        rw [nothing] at found
        cases found
      exact ih (by omega) (by omega)

-- Where the interval is wider than a step, one of the two neighbours of the number lies in it.
theorem wide_neighbour {b a : Nat} (low : i.low * scale unit + b = i.value * scale unit)
    (high : i.value * scale unit + a = i.high * scale unit) (under : 0 < b) (above : 0 < a)
    (positive : 0 < step i unit) (wide : step i unit < b + a) : ∃ n, neighbour? i unit = some n := by
  have split : i.value * scale unit / step i unit * step i unit + i.value * scale unit % step i unit =
      i.value * scale unit := by rw [Nat.mul_comm _ (step i unit), Nat.div_add_mod]
  have left := Nat.mod_lt (i.value * scale unit) positive
  by_cases near : i.value * scale unit % step i unit < b
  · refine neighbour?_some (.inl rfl) ?_ ?_
    all_goals omega
  · refine neighbour?_some (.inr rfl) ?_ ?_
    all_goals
      rw [Nat.add_mul]
      omega

-- Seventeen digits tell doubles apart.
theorem lt_width (bits : m < 2 ^ 53) : 4 * m < (below m q + 2) * 10 ^ 16 := by
  unfold below
  split
  · rename_i power
    rw [power.1]
    decide
  · omega

-- On a fine grid the interval is wider than a step.
theorem fine_neighbour (normal : Normal m q) (inside : point ≤ 16)
    (fine : 2 ^ (2 - q).toNat * 10 ^ 16 ≤ 4 * m * 10 ^ (17 - point).toNat) :
    ∃ n, neighbour? (Interval.of m q) (point - 17) = some n := by
  have negative : point - 17 < 0 := by omega
  have turned : -(point - 17) = 17 - point := by omega
  have isScale : scale (point - 17) = 10 ^ (17 - point).toNat := by
    rw [scale, if_pos negative, turned]
    rfl
  have isStep : step (Interval.of m q) (point - 17) = 2 ^ (2 - q).toNat := by
    rw [step, if_pos negative, of_small normal.power]
  have some : 0 < 2 ^ (2 - q).toNat := Nat.pow_pos (by decide)
  generalize 2 ^ (2 - q).toNat = D at fine isStep some
  have positive : 0 < 10 ^ (17 - point).toNat := Nat.pow_pos (by decide)
  generalize 10 ^ (17 - point).toNat = S at fine isScale positive
  have narrow : D < (below m q + 2) * S := by
    refine Nat.not_le.mp fun wide => ?_
    have most : (below m q + 2) * 10 ^ 16 * S ≤ 4 * m * S := by
      calc (below m q + 2) * 10 ^ 16 * S = (below m q + 2) * S * 10 ^ 16 := Nat.mul_right_comm _ _ _
        _ ≤ D * 10 ^ 16 := Nat.mul_le_mul_right _ wide
        _ ≤ 4 * m * S := fine
    exact absurd (Nat.le_of_mul_le_mul_right most positive) (Nat.not_le.mpr (lt_width normal.bits))
  have less := @below_le m q
  have more := normal.positive
  refine wide_neighbour (b := below m q * S) (a := 2 * S) ?_ ?_ ?_ ?_ ?_ ?_
  · rw [of_small normal.power, isScale, ← Nat.add_mul]
    congr 1
    exact Nat.sub_add_cancel (by omega)
  · rw [of_small normal.power, isScale, ← Nat.add_mul]
  · exact Nat.mul_pos below_pos positive
  · exact Nat.mul_pos (by decide) positive
  · rwa [isStep]
  · rwa [isStep, ← Nat.add_mul]

-- A whole number is a point of the grid of whole numbers.
theorem whole_neighbour (normal : Normal m q) (whole : 4 * m = n * 2 ^ (2 - q).toNat) :
    ∃ n, neighbour? (Interval.of m q) 0 = some n := by
  have positive := normal.positive
  have isStep : step (Interval.of m q) 0 = 2 ^ (2 - q).toNat := by
    rw [of_small normal.power]
    exact Nat.mul_one _
  have floor : (Interval.of m q).value * scale 0 / step (Interval.of m q) 0 = n := by
    rw [isStep, of_small normal.power]
    change 4 * m * 1 / _ = n
    rw [Nat.mul_one, whole, Nat.mul_div_cancel _ (Nat.pow_pos (by decide))]
  have near := @below_pos m q
  refine neighbour?_some (.inl floor.symm) ?_ ?_
  · rw [isStep, ← whole, of_small normal.power]
    change (4 * m - below m q) * 1 < 4 * m
    omega
  · rw [isStep, ← whole, of_small normal.power]
    change 4 * m < (4 * m + 2) * 1
    omega

theorem low_le_high (small : q < 2) : (Interval.of m q).low ≤ (Interval.of m q).high := by
  rw [of_small small]
  dsimp only
  omega

-- Around a number with a fraction there is no whole number.
theorem no_whole (fraction : q < 0) (remains : m % 2 ^ (-q).toNat ≠ 0) (n : Nat) :
    ¬((Interval.of m q).low ≤ n * (Interval.of m q).denominator ∧
      n * (Interval.of m q).denominator ≤ (Interval.of m q).high) := by
  have exponent : (2 - q).toNat = 2 + (-q).toNat := by omega
  have near := @below_le m q
  have product : n * 2 ^ (2 - q).toNat = 4 * (n * 2 ^ (-q).toNat) := by
    rw [exponent, Nat.pow_add, Nat.mul_left_comm]
  rw [of_small (by omega)]
  dsimp only
  rw [product]
  intro ends
  have same : n * 2 ^ (-q).toNat = m := by omega
  rw [← same, Nat.mul_mod_left] at remains
  exact remains rfl

theorem Fits.fraction (fits : Fits i unit n)
    (noWhole : ∀ n, ¬(i.low ≤ n * i.denominator ∧ n * i.denominator ≤ i.high)) :
    unit < 0 ∧ ¬10 ^ (-unit).toNat ∣ n := by
  obtain ⟨above, under, _⟩ := fits
  have negative : unit < 0 := by
    refine Int.not_le.mp fun nonneg => ?_
    have noScale : scale unit = 1 := if_neg (Int.not_lt.mpr nonneg)
    have isStep : step i unit = i.denominator * 10 ^ unit.toNat := if_neg (Int.not_lt.mpr nonneg)
    have product : n * (i.denominator * 10 ^ unit.toNat) = n * 10 ^ unit.toNat * i.denominator := by
      rw [Nat.mul_left_comm, Nat.mul_comm]
    rw [noScale, isStep, Nat.mul_one, product] at above under
    exact noWhole _ ⟨above, under⟩
  refine ⟨negative, ?_⟩
  rintro ⟨k, rfl⟩
  have isScale : scale unit = 10 ^ (-unit).toNat := if_pos negative
  have isStep : step i unit = i.denominator := if_pos negative
  have product : 10 ^ (-unit).toNat * k * i.denominator = k * i.denominator * 10 ^ (-unit).toNat := by
    rw [Nat.mul_assoc, Nat.mul_comm]
  have positive : 0 < 10 ^ (-unit).toNat := Nat.pow_pos (by decide)
  rw [isScale, isStep, product] at above under
  exact noWhole k ⟨Nat.le_of_mul_le_mul_right above positive, Nat.le_of_mul_le_mul_right under positive⟩

-- Both sides of a comparison on a grid, as multiples of numbers.
theorem scaled_eq (small : q < 2) : ∃ f : ℚ, 0 < f ∧
    (∀ x : Nat, ((x * scale unit : Nat) : ℚ) = f * (x * 2 ^ q)) ∧
      ((n * step (Interval.of m q) unit : Nat) : ℚ) = f * (4 * (n * 10 ^ unit)) := by
  have denominator : ((2 ^ (2 - q).toNat : Nat) : ℚ) * 2 ^ q = 4 := by
    have exponent : ((2 - q).toNat : Int) = 2 - q := by omega
    rw [Nat.cast_pow, ← zpow_natCast, exponent, Nat.cast_ofNat, ← zpow_add₀ (by norm_num), Int.sub_add_cancel]
    norm_num
  have steps : (step (Interval.of m q) unit : ℚ) = scale unit * ((2 ^ (2 - q).toNat : Nat) * 10 ^ unit) := by
    rw [of_small small]
    unfold step scale
    split
    · have exponent : (10 : ℚ) ^ unit = (10 ^ (-unit).toNat)⁻¹ := by
        rw [← zpow_natCast, ← zpow_neg]
        congr 1
        omega
      rw [exponent, Nat.pow_eq]
      push_cast
      field_simp
    · have exponent : (10 : ℚ) ^ unit = 10 ^ unit.toNat := by
        rw [← zpow_natCast]
        congr 1
        omega
      rw [exponent, Nat.pow_eq]
      push_cast
      ring
  have some : (0 : ℚ) < scale unit := Nat.cast_pos.mpr scale_pos
  refine ⟨scale unit / 2 ^ q, by positivity, fun x => ?_, ?_⟩
  · push_cast
    field_simp
  · push_cast at denominator ⊢
    rw [steps, ← denominator]
    push_cast
    field_simp

theorem Fits.pos (fits : Fits (Interval.of m q) unit n) (normal : Normal m q) : 0 < n := by
  have near := @below_le m q
  have positive := normal.positive
  have low : (Interval.of m q).low = 4 * m - below m q := by rw [of_small normal.power]
  refine Nat.pos_of_ne_zero ?_
  rintro rfl
  have above := fits.above
  rw [Nat.zero_mul, low] at above
  exact absurd (Nat.mul_pos (by omega) scale_pos) (Nat.not_lt.mpr above)

theorem Fits.rounds (fits : Fits (Interval.of m q) unit n) (small : q < 2) : Rounds m q (n * 10 ^ unit) := by
  obtain ⟨f, positive, ends, point⟩ := @scaled_eq m n q unit small
  have isLow : (Interval.of m q).low = 4 * m - below m q := by rw [of_small small]
  have isHigh : (Interval.of m q).high = 4 * m + 2 := by rw [of_small small]
  have isClosed : (Interval.of m q).closed = decide (m % 2 = 0) := by rw [of_small small]
  obtain ⟨above, under, strict⟩ := fits
  rw [← Nat.cast_le (α := ℚ), ends, point, isLow, mul_le_mul_iff_right₀ positive] at above
  rw [← Nat.cast_le (α := ℚ), ends, point, isHigh, mul_le_mul_iff_right₀ positive] at under
  refine ⟨above, under, fun odd => ?_⟩
  obtain ⟨above, under⟩ := strict (by rw [isClosed, decide_eq_false_iff_not]; omega)
  rw [← Nat.cast_lt (α := ℚ), ends, point, isLow, mul_lt_mul_iff_right₀ positive] at above
  rw [← Nat.cast_lt (α := ℚ), ends, point, isHigh, mul_lt_mul_iff_right₀ positive] at under
  exact ⟨above, under⟩

end Shortest
end TreePath
