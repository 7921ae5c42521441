import TreePath.Proofs.Number.Shortest
namespace TreePath
open Binary

variable {m n k : Nat} {q : Int}

-- The number that the digits say.
def DigitString.value (s : DigitString) : ℚ := Integer.ofDigits s.digits * 10 ^ (s.point - s.digits.length)

structure DigitString.Spelled (s : DigitString) : Prop where
  nonempty : s.digits ≠ []
  digits : ∀ d ∈ s.digits, CharClass.isDigit d = true

-- A text with a fraction, and the number that its digits say.
def FractionText (text : List Char) (v : ℚ) : Prop :=
  ∃ whole fraction, text = whole ++ '.' :: fraction ∧ whole ≠ [] ∧ fraction ≠ [] ∧
    (∀ d ∈ whole, CharClass.isDigit d = true) ∧ (∀ d ∈ fraction, CharClass.isDigit d = true) ∧
      (Integer.ofDigits (whole ++ fraction) : ℚ) / 10 ^ fraction.length = v

theorem ofDigits_zeros (zeros : Nat) (digits : List Char) :
    Integer.ofDigits (List.replicate zeros '0' ++ digits) = Integer.ofDigits digits := by
  unfold Integer.ofDigits
  rw [Nat.ofDigitChars_append, Nat.ofDigitChars_replicate_zero, Nat.mul_zero]

theorem ofDigits_behind (digits : List Char) (zeros : Nat) :
    Integer.ofDigits (digits ++ List.replicate zeros '0') = 10 ^ zeros * Integer.ofDigits digits := by
  unfold Integer.ofDigits
  rw [Nat.ofDigitChars_append, Nat.ofDigitChars_replicate_zero]

theorem isDigit_replicate {zeros : Nat} {d : Char} (here : d ∈ List.replicate zeros '0') :
    CharClass.isDigit d = true := by
  rw [(List.mem_replicate.mp here).2]
  decide

theorem DigitString.Spelled.positional_fraction {s : DigitString} (spelled : s.Spelled)
    (behind : s.point < s.digits.length) : FractionText s.positional s.value := by
  unfold DigitString.positional
  split
  · refine ⟨['0'], List.replicate (-s.point).toNat '0' ++ s.digits, rfl, List.cons_ne_nil _ _, ?_, ?_, ?_, ?_⟩
    · exact fun none => spelled.nonempty (List.append_eq_nil_iff.mp none).2
    · exact fun d here => @isDigit_replicate 1 d here
    · exact fun d here => (List.mem_append.mp here).elim isDigit_replicate (spelled.digits d)
    · have exponent : s.point - s.digits.length = -(((-s.point).toNat + s.digits.length : Nat) : Int) := by omega
      rw [← List.append_assoc]
      change (Integer.ofDigits (List.replicate ((-s.point).toNat + 1) '0' ++ s.digits) : ℚ) / _ = _
      rw [ofDigits_zeros, DigitString.value, exponent, zpow_neg, zpow_natCast, List.length_append,
        List.length_replicate, div_eq_mul_inv]
  · rename_i before
    have inside : s.point.toNat < s.digits.length := by omega
    dsimp only
    rw [if_neg (Nat.not_le.mpr inside)]
    refine ⟨_, _, rfl, ?_, ?_, ?_, ?_, ?_⟩
    · rw [Ne, List.take_eq_nil_iff, not_or]
      exact ⟨by omega, spelled.nonempty⟩
    · rw [Ne, List.drop_eq_nil_iff]
      exact Nat.not_le.mpr inside
    · exact fun d here => spelled.digits d (List.mem_of_mem_take here)
    · exact fun d here => spelled.digits d (List.mem_of_mem_drop here)
    · have exponent : s.point - s.digits.length = -((s.digits.length - s.point.toNat : Nat) : Int) := by omega
      rw [List.take_append_drop, DigitString.value, exponent, zpow_neg, zpow_natCast, List.length_drop, div_eq_mul_inv]

-- A whole number is given a fraction.
theorem DigitString.Spelled.positional_whole {s : DigitString} (spelled : s.Spelled)
    (behind : s.digits.length ≤ s.point) : FractionText (s.positional ++ ['.', '0']) s.value := by
  have positive : 0 < s.digits.length := List.length_pos_iff.mpr spelled.nonempty
  have after : ¬s.point ≤ 0 := by omega
  have covers : s.digits.length ≤ s.point.toNat := by omega
  have whole : s.positional = s.digits ++ List.replicate (s.point.toNat - s.digits.length) '0' := by
    unfold DigitString.positional
    rw [if_neg after]
    exact if_pos covers
  rw [whole]
  refine ⟨_, ['0'], rfl, fun none => spelled.nonempty (List.append_eq_nil_iff.mp none).1, List.cons_ne_nil _ _,
    ?_, ?_, ?_⟩
  · exact fun d here => (List.mem_append.mp here).elim (spelled.digits d) isDigit_replicate
  · exact fun d here => @isDigit_replicate 1 d here
  · have exponent : s.point - s.digits.length = ((s.point.toNat - s.digits.length : Nat) : Int) := by omega
    change (Integer.ofDigits (_ ++ List.replicate 1 '0') : ℚ) / 10 ^ 1 = _
    rw [ofDigits_behind, ofDigits_behind, DigitString.value, exponent, zpow_natCast]
    push_cast
    field_simp

namespace Shortest

theorem digitString_zeros (n count : Nat) (point : Int) : ∃ zeros, Nat.toDigits 10 n =
    (digitString n count point).digits ++ List.replicate zeros '0' := by
  have same : (Nat.toDigits 10 n).reverse.takeWhile (· == '0') =
      List.replicate ((Nat.toDigits 10 n).reverse.takeWhile (· == '0')).length '0' :=
    List.eq_replicate_iff.mpr ⟨rfl, fun c here => beq_iff_eq.mp (List.all_eq_true.mp List.all_takeWhile c here)⟩
  refine ⟨((Nat.toDigits 10 n).reverse.takeWhile (· == '0')).length, ?_⟩
  rw [← List.reverse_inj, List.reverse_append, List.reverse_replicate, ← same]
  exact List.takeWhile_append_dropWhile.symm.trans (congrArg _ (List.reverse_reverse _).symm)

-- The digits of a positive number, whose zeros at the end are left out.
theorem digitString_parts (positive : 0 < n) (count : Nat) (point : Int) :
    let s := digitString n count point
    s.Spelled ∧ s.value = n * 10 ^ (point - count) ∧
      ∃ zeros : Nat, 10 ^ zeros ∣ n ∧ s.point = point + ((s.digits.length : Int) + zeros - count) := by
  obtain ⟨zeros, whole⟩ := digitString_zeros n count point
  have value : n = 10 ^ zeros * Integer.ofDigits (digitString n count point).digits := by
    calc n = Integer.ofDigits (Nat.toDigits 10 n) := Nat.ofDigitChars_ten_toDigits.symm
      _ = _ := by rw [whole, ofDigits_behind]
  have length := congrArg List.length whole
  rw [List.length_append, List.length_replicate] at length
  have isPoint : (digitString n count point).point =
      point + (((digitString n count point).digits.length : Int) + zeros - count) := by
    change point + ((Nat.toDigits 10 n).length - count : Int) = _
    rw [length, Int.natCast_add]
  refine ⟨⟨fun none => ?_, fun d here => ?_⟩, ?_, zeros, ⟨_, value⟩, isPoint⟩
  · rw [none] at value
    change n = 10 ^ zeros * 0 at value
    omega
  · rw [CharClass.isDigit_eq]
    refine Nat.isDigit_of_mem_toDigits (by decide : 0 < 10) (by decide) (?_ : d ∈ Nat.toDigits 10 n)
    rw [whole]
    exact List.mem_append_left _ here
  · have exponent : (digitString n count point).point - (digitString n count point).digits.length =
        zeros + (point - count) := by omega
    have cast : (n : ℚ) = 10 ^ zeros * Integer.ofDigits (digitString n count point).digits := by
      exact_mod_cast value
    rw [DigitString.value, exponent, zpow_add₀ (by norm_num), zpow_natCast, cast]
    ring

-- The power of ten above a number, where the digits start.
def top (m : Nat) (q : Int) : Int :=
  pointFrom (Interval.of m q) 4 (((Nat.log2 m : Int) + q) * 30103 / 100000 - 1)

theorem reaches_top (normal : Normal m q) : (Interval.of m q).reaches (top m q - 1) = true := by
  refine pointFrom_reaches ?_
  rw [Int.sub_sub]
  exact estimate_reaches normal

theorem top_le (normal : Normal m q) (bounded : 4 * m < 2 ^ (2 - q).toNat * 10 ^ 16) : top m q ≤ 16 := by
  refine point_le ?_ (reaches_top normal)
  rw [of_small normal.power]
  exact bounded

-- If a grid of at most seventeen digits has a point in the interval, the digits are those of such a point.
theorem digits_found {c : Nat} (normal : Normal m q) (positive : 1 ≤ c) (few : c ≤ 17)
    (found : ∃ n, neighbour? (Interval.of m q) (top m q - c) = some n) :
    (digits m q).Spelled ∧ Rounds m q (digits m q).value ∧ ∃ n, ∃ count ≤ c,
      Fits (Interval.of m q) (top m q - count) n ∧ ∃ zeros : Nat, 10 ^ zeros ∣ n ∧
        (digits m q).point = top m q + (((digits m q).digits.length : Int) + zeros - count) := by
  obtain ⟨n, count, same, less, isNear⟩ := @search_found (Interval.of m q) 1 17 (top m q) c positive (by omega) found
  have fits := neighbour?_fits (low_le_high normal.power) isNear
  obtain ⟨spelled, value, parts⟩ := digitString_parts (fits.pos normal) count (top m q)
  have whole : digits m q = digitString n count (top m q) := by
    change digitString (search (Interval.of m q) (top m q) 17 1).1 (search (Interval.of m q) (top m q) 17 1).2
      (top m q) = _
    rw [same]
  rw [whole]
  exact ⟨spelled, value ▸ fits.rounds normal.power, n, count, less, fits, parts⟩

-- A number with a fraction has digits behind the point.
theorem digits_fraction (normal : Normal m q) (fraction : q < 0) (remains : m % 2 ^ (-q).toNat ≠ 0) :
    (digits m q).Spelled ∧ Rounds m q (digits m q).value ∧ (digits m q).point < (digits m q).digits.length := by
  have bounded : 4 * m < 2 ^ (2 - q).toNat * 10 ^ 16 := by
    have bits := normal.bits
    have eight : 2 ^ 3 ≤ 2 ^ (2 - q).toNat := Nat.pow_le_pow_right (by decide) (by omega)
    omega
  have inside := top_le normal bounded
  have fine := fine_of_reaches (reaches_top normal) inside
  have denominator : (Interval.of m q).denominator = 2 ^ (2 - q).toNat := by rw [of_small normal.power]
  have value : (Interval.of m q).value = 4 * m := by rw [of_small normal.power]
  rw [denominator, value] at fine
  obtain ⟨spelled, rounds, n, count, _, fits, zeros, divides, point⟩ :=
    digits_found normal (by decide) (Nat.le_refl 17) (fine_neighbour normal inside fine)
  obtain ⟨negative, apart⟩ := fits.fraction (no_whole fraction remains)
  have less : zeros < (-(top m q - count)).toNat := by
    refine Nat.not_le.mp fun more => apart ?_
    exact Nat.dvd_trans (Nat.pow_dvd_pow 10 more) divides
  exact ⟨spelled, rounds, by omega⟩

-- The estimate of the power of ten is not far too low.
theorem top_short (normal : Normal m q) (least : 2 ^ (2 - q).toNat ≤ 4 * m) :
    (Interval.of m q).reaches (top m q) = false := by
  refine pointFrom_short ?_
  have high : m < 2 ^ (m.log2 + 1) := Nat.lt_log2_self
  have bits : m.log2 < 53 := (Nat.log2_lt (Nat.ne_of_gt normal.positive)).mpr normal.bits
  have power := normal.power
  have nonneg : 0 ≤ (m.log2 : Int) + q := by
    refine Int.not_lt.mp fun negative => ?_
    have more : 4 * 2 ^ (m.log2 + 1) ≤ 2 ^ (2 - q).toNat := by
      rw [show 4 = 2 ^ 2 from rfl, ← Nat.pow_add]
      exact Nat.pow_le_pow_right (by decide) (by omega)
    omega
  rw [of_small normal.power]
  unfold Interval.reaches
  generalize exponent : (m.log2 : Int) + q = e at nonneg
  have above : 0 ≤ e * 30103 / 100000 - 1 + (4 : Nat) := by omega
  rw [if_pos above, decide_eq_false_iff_not, Nat.not_le]
  dsimp only
  have bound : 2 ^ (e + 1).toNat ≤ 10 ^ (e * 30103 / 100000 - 1 + (4 : Nat)).toNat := two_pow_le_ten_pow (by omega)
  calc 4 * m < 2 ^ 2 * 2 ^ (m.log2 + 1) := Nat.mul_lt_mul_of_pos_left high (by decide)
    _ = 2 ^ (2 - q).toNat * 2 ^ (e + 1).toNat := by rw [← Nat.pow_add, ← Nat.pow_add]; congr 1; omega
    _ ≤ 2 ^ (2 - q).toNat * 10 ^ (e * 30103 / 100000 - 1 + (4 : Nat)).toNat := Nat.mul_le_mul_left _ bound

theorem top_pos (normal : Normal m q) (least : 2 ^ (2 - q).toNat ≤ 4 * m) : 0 < top m q := by
  refine Int.not_le.mp fun low => ?_
  have short := top_short normal least
  unfold Interval.reaches at short
  rw [of_small normal.power] at short
  split at short
  · rename_i nonneg
    have zero : (top m q).toNat = 0 := by omega
    rw [zero] at short
    exact (of_decide_eq_false short) (by simpa using least)
  · exact (of_decide_eq_false short) (Nat.le_trans least (Nat.le_mul_of_pos_right _ (Nat.pow_pos (by decide))))

-- A whole number below 10 ^ 16 has no digits behind the point.
theorem digits_whole (normal : Normal m q) (whole : 4 * m = k * 2 ^ (2 - q).toNat) (modest : k < 10 ^ 16) :
    (digits m q).Spelled ∧ Rounds m q (digits m q).value ∧ (digits m q).digits.length ≤ (digits m q).point := by
  have some : 0 < k := by
    refine Nat.pos_of_ne_zero ?_
    rintro rfl
    have := normal.positive
    omega
  have bounded : 4 * m < 2 ^ (2 - q).toNat * 10 ^ 16 := by
    rw [whole, Nat.mul_comm]
    exact Nat.mul_lt_mul_of_pos_left modest (Nat.pow_pos (by decide))
  have least : 2 ^ (2 - q).toNat ≤ 4 * m := by
    rw [whole]
    exact Nat.le_mul_of_pos_left _ some
  have inside := top_le normal bounded
  have positive := top_pos normal least
  have isTop : top m q - (top m q).toNat = 0 := by omega
  have found := whole_neighbour normal whole
  rw [← isTop] at found
  obtain ⟨spelled, rounds, n, count, few, fits, zeros, divides, point⟩ :=
    digits_found normal (by omega) (by omega) found
  exact ⟨spelled, rounds, by omega⟩

end Shortest
end TreePath
