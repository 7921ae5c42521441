import TreePath.Proofs.Number.ReadBack
namespace TreePath
open Binary

-- The parts of doubles from 10 ^ 16, all of which are whole numbers.
structure Shortest.Large (m : Nat) (q : Int) : Prop extends Canonical m q where
  power : q ≤ 971
  least : 10 ^ 16 ≤ m * 2 ^ q.toNat

variable {m n k count : Nat} {q unit : Int} {x : Float}

namespace Shortest

theorem Large.pos (large : Large m q) : 1 ≤ q := by
  refine Int.not_lt.mp fun small => ?_
  have none : q.toNat = 0 := by omega
  have least := large.least
  have bits := large.bits
  rw [none] at least
  omega

theorem Large.log2_eq (large : Large m q) : m.log2 = 52 := by
  have more := large.full (by have := large.pos; omega)
  have low := (Nat.le_log2 (Nat.ne_of_gt large.positive)).mpr more
  have high := (Nat.log2_lt (Nat.ne_of_gt large.positive)).mpr large.bits
  omega

-- The interval in units of which one place has four over the denominator.
theorem of_large (positive : 1 ≤ q) : ∃ unit denominator, 0 < denominator ∧
    4 * unit = denominator * 2 ^ q.toNat ∧ Interval.of m q =
      ⟨(4 * m - below m q) * unit, 4 * m * unit, (4 * m + 2) * unit, denominator, decide (m % 2 = 0)⟩ := by
  unfold Interval.of
  dsimp only
  by_cases two : 0 ≤ q - 2
  · have exponent : q.toNat = 2 + (q - 2).toNat := by omega
    refine ⟨2 ^ (q - 2).toNat, 1, Nat.one_pos, ?_, ?_⟩
    · rw [exponent, Nat.pow_add, Nat.one_mul]
    · rw [if_pos two, if_pos two]
      rfl
  · have one : q = 1 := by omega
    refine ⟨1, 2, Nat.two_pos, ?_, ?_⟩
    · rw [one]
      rfl
    · rw [if_neg two, if_neg two, one]
      rfl

theorem reaches_large (positive : 1 ≤ q) (nonneg : 0 ≤ unit) :
    (Interval.of m q).reaches unit = true ↔ 10 ^ unit.toNat ≤ m * 2 ^ q.toNat := by
  obtain ⟨one, denominator, some, place, whole⟩ := @of_large m q positive
  rw [whole]
  unfold Interval.reaches
  rw [if_pos nonneg, decide_eq_true_iff]
  have value : 4 * m * one = denominator * (m * 2 ^ q.toNat) := by
    rw [Nat.mul_right_comm, place, Nat.mul_right_comm, Nat.mul_assoc]
  change denominator * 10 ^ unit.toNat ≤ 4 * m * one ↔ _
  rw [value]
  exact Nat.mul_le_mul_left_iff some

theorem le_pointFrom {i : Interval} {turns : Nat} {point : Int} : point ≤ pointFrom i turns point := by
  induction turns generalizing point with
  | zero => exact Int.le_refl _
  | succ turns ih =>
    rw [pointFrom]
    split
    · have := @ih (point + 1)
      omega
    · exact Int.le_refl _

theorem Large.top_reaches (large : Large m q) :
    17 ≤ top m q ∧ 10 ^ (top m q - 1).toNat ≤ m * 2 ^ q.toNat := by
  have positive := large.pos
  have power := large.power
  have isLog := large.log2_eq
  have full := large.full (by omega)
  have least := large.least
  have start : 15 ≤ ((Nat.log2 m : Int) + q) * 30103 / 100000 := by omega
  have low := @le_pointFrom (Interval.of m q) 4 (((Nat.log2 m : Int) + q) * 30103 / 100000 - 1)
  change _ ≤ top m q at low
  have reached : (Interval.of m q).reaches (top m q - 1) = true := by
    refine pointFrom_reaches ((reaches_large positive (by omega)).mpr ?_)
    calc 10 ^ (((Nat.log2 m : Int) + q) * 30103 / 100000 - 1 - 1).toNat ≤ 2 ^ (52 + q.toNat) :=
          ten_pow_le_two_pow (by omega)
      _ = 2 ^ 52 * 2 ^ q.toNat := Nat.pow_add 2 52 _
      _ ≤ m * 2 ^ q.toNat := Nat.mul_le_mul_right _ full
  have short : ¬10 ^ (top m q).toNat ≤ m * 2 ^ q.toNat := by
    rw [← reaches_large positive (by omega), Bool.not_eq_true]
    refine pointFrom_short ?_
    rw [← Bool.not_eq_true, reaches_large positive (by omega), Nat.not_le]
    calc m * 2 ^ q.toNat < 2 ^ 53 * 2 ^ q.toNat := Nat.mul_lt_mul_of_pos_right large.bits (Nat.two_pow_pos _)
      _ = 2 ^ (53 + q.toNat) := (Nat.pow_add 2 53 _).symm
      _ ≤ _ := two_pow_le_ten_pow (by omega)
  refine ⟨Int.not_lt.mp fun few => short ?_, (reaches_large positive (by omega)).mp reached⟩
  exact Nat.le_trans (Nat.pow_le_pow_right (by decide) (by omega)) least

-- Seventeen digits suffice.
theorem Large.neighbour (large : Large m q) :
    ∃ n, neighbour? (Interval.of m q) (top m q - (17 : Nat)) = some n := by
  obtain ⟨inside, reached⟩ := large.top_reaches
  obtain ⟨one, denominator, some, place, whole⟩ := @of_large m q large.pos
  have nonneg : ¬top m q - (17 : Nat) < 0 := by omega
  have noScale : scale (top m q - (17 : Nat)) = 1 := if_neg nonneg
  have isStep : step (Interval.of m q) (top m q - (17 : Nat)) =
      denominator * 10 ^ (top m q - (17 : Nat)).toNat := by
    rw [whole]
    exact if_neg nonneg
  have positive : 0 < one := by
    refine Nat.pos_of_ne_zero ?_
    rintro rfl
    exact absurd place (Nat.ne_of_lt (Nat.mul_pos some (Nat.two_pow_pos _)))
  have exponent : (top m q - 1).toNat = (top m q - (17 : Nat)).toNat + 16 := by omega
  rw [exponent, Nat.pow_add] at reached
  have ten_pos : 0 < 10 ^ (top m q - (17 : Nat)).toNat := Nat.pow_pos (by decide)
  generalize 10 ^ (top m q - (17 : Nat)).toNat = ten at isStep reached ten_pos
  have narrow : denominator * ten < (below m q + 2) * one := by
    refine Nat.not_le.mp fun wide => ?_
    have most : (below m q + 2) * 10 ^ 16 * one ≤ 4 * m * one := by
      calc (below m q + 2) * 10 ^ 16 * one = (below m q + 2) * one * 10 ^ 16 := Nat.mul_right_comm _ _ _
        _ ≤ denominator * ten * 10 ^ 16 := Nat.mul_le_mul_right _ wide
        _ = denominator * (ten * 10 ^ 16) := Nat.mul_assoc _ _ _
        _ ≤ denominator * (m * 2 ^ q.toNat) := Nat.mul_le_mul_left _ reached
        _ = 4 * m * one := by rw [Nat.mul_right_comm, place, Nat.mul_right_comm, Nat.mul_assoc]
    exact absurd (Nat.le_of_mul_le_mul_right most positive) (Nat.not_le.mpr (lt_width large.bits))
  have less := @below_le m q
  have more := large.positive
  refine wide_neighbour (b := below m q * one) (a := 2 * one) ?_ ?_ ?_ ?_ ?_ ?_
  · rw [whole, noScale, Nat.mul_one, Nat.mul_one, ← Nat.add_mul]
    congr 1
    exact Nat.sub_add_cancel (by omega)
  · rw [whole, noScale, Nat.mul_one, Nat.mul_one, ← Nat.add_mul]
  · exact Nat.mul_pos below_pos positive
  · exact Nat.mul_pos (by decide) positive
  · rw [isStep]
    exact Nat.mul_pos some ten_pos
  · rwa [isStep, ← Nat.add_mul]

-- What fits on a grid of whole numbers rounds to the number.
theorem Fits.large (fits : Fits (Interval.of m q) unit n) (positive : 1 ≤ q) (nonneg : 0 ≤ unit) :
    (4 * m - below m q) * 2 ^ q.toNat ≤ 4 * (n * 10 ^ unit.toNat) ∧
      4 * (n * 10 ^ unit.toNat) ≤ (4 * m + 2) * 2 ^ q.toNat := by
  obtain ⟨one, denominator, some, place, whole⟩ := @of_large m q positive
  have noScale : scale unit = 1 := if_neg (Int.not_lt.mpr nonneg)
  have isStep : step (Interval.of m q) unit = denominator * 10 ^ unit.toNat := by
    rw [whole]
    exact if_neg (Int.not_lt.mpr nonneg)
  obtain ⟨above, under, _⟩ := fits
  rw [noScale, Nat.mul_one, isStep, whole] at above under
  have turned : ∀ a, denominator * (a * 2 ^ q.toNat) = 4 * (a * one) := by
    intro a
    rw [Nat.mul_left_comm, ← place, Nat.mul_left_comm]
  have point : denominator * (4 * (n * 10 ^ unit.toNat)) = 4 * (n * (denominator * 10 ^ unit.toNat)) := by
    rw [Nat.mul_left_comm, Nat.mul_left_comm denominator]
  constructor
  · refine Nat.le_of_mul_le_mul_left ?_ some
    rw [turned, point]
    exact Nat.mul_le_mul_left 4 above
  · refine Nat.le_of_mul_le_mul_left ?_ some
    rw [turned, point]
    exact Nat.mul_le_mul_left 4 under

theorem toDigits_zeros (positive : 0 < n) (zeros : Nat) :
    Nat.toDigits 10 (n * 10 ^ zeros) = Nat.toDigits 10 n ++ List.replicate zeros '0' := by
  induction zeros with
  | zero => rw [Nat.pow_zero, Nat.mul_one, List.replicate_zero, List.append_nil]
  | succ zeros ih =>
    have some : 0 < n * 10 ^ zeros := Nat.mul_pos positive (Nat.pow_pos (by decide))
    have last : n * 10 ^ (zeros + 1) = 10 * (n * 10 ^ zeros) + 0 := by
      rw [Nat.pow_succ, ← Nat.mul_assoc, Nat.mul_comm]
      rfl
    rw [last, ← Nat.toDigits_append_toDigits (by decide) some (by decide), ih, List.append_assoc,
      List.replicate_succ']
    rfl

-- Digits that end before the point are written out up to it.
theorem positional_zeros (positive : 0 < n) {zeros : Nat} {point : Int}
    (ends : (digitString n count point).point = ((Nat.toDigits 10 n).length : Int) + zeros) :
    (digitString n count point).positional = (n * 10 ^ zeros).repr.toList := by
  obtain ⟨dropped, whole⟩ := digitString_zeros n count point
  have length := congrArg List.length whole
  rw [List.length_append, List.length_replicate] at length
  have nonempty : 0 < (Nat.toDigits 10 n).length := List.length_pos_iff.mpr Nat.toDigits_ne_nil
  have after : ¬(digitString n count point).point ≤ 0 := by omega
  have covers : (digitString n count point).digits.length ≤ (digitString n count point).point.toNat := by omega
  have rest : (digitString n count point).point.toNat - (digitString n count point).digits.length =
      dropped + zeros := by omega
  unfold DigitString.positional
  rw [if_neg after]
  dsimp only
  rw [if_pos covers, rest, List.replicate_add, ← List.append_assoc, ← whole, Nat.toList_repr,
    toDigits_zeros positive]

-- A large number is written in whole digits, as one of those that round to it.
theorem digits_large (large : Large m q) : ∃ N : Nat, (digits m q).positional = N.repr.toList ∧
    (4 * m - below m q) * 2 ^ q.toNat ≤ 4 * N ∧ 4 * N ≤ (4 * m + 2) * 2 ^ q.toNat := by
  obtain ⟨n, count, same, few, isNear⟩ :=
    @search_found (Interval.of m q) 1 17 (top m q) 17 (by decide) (by decide) large.neighbour
  obtain ⟨inside, _⟩ := large.top_reaches
  obtain ⟨one, denominator, _, _, whole⟩ := @of_large m q large.pos
  have nonneg : 0 ≤ top m q - count := by omega
  have ordered : (Interval.of m q).low ≤ (Interval.of m q).high := by
    rw [whole]
    exact Nat.mul_le_mul_right _ (by omega)
  have rounds := (neighbour?_fits ordered isNear).large large.pos nonneg
  have less := @below_le m q
  have more := large.positive
  have positive : 0 < n := by
    refine Nat.pos_of_ne_zero ?_
    rintro rfl
    have some : 0 < (4 * m - below m q) * 2 ^ q.toNat := Nat.mul_pos (by omega) (Nat.two_pow_pos _)
    omega
  have isDigits : digits m q = digitString n count (top m q) := by
    change digitString (search (Interval.of m q) (top m q) 17 1).1 (search (Interval.of m q) (top m q) 17 1).2
      (top m q) = _
    rw [same]
  have ends : (digitString n count (top m q)).point =
      ((Nat.toDigits 10 n).length : Int) + (top m q - count).toNat := by
    change top m q + ((Nat.toDigits 10 n).length - count : Int) = _
    omega
  refine ⟨n * 10 ^ (top m q - count).toNat, ?_, rounds⟩
  rw [isDigits, positional_zeros positive ends]

theorem large_within (large : Large m q) (under : 4 * n ≤ (4 * m + 2) * 2 ^ q.toNat)
    (less : m * 2 ^ q.toNat < 2 ^ 63) : n < 2 ^ 63 := by
  have few : q.toNat < 63 := by
    refine (Nat.pow_lt_pow_iff_right (by decide : 1 < 2)).mp (Nat.lt_of_le_of_lt ?_ less)
    exact Nat.le_mul_of_pos_left _ large.positive
  have split : 2 ^ 63 = 2 ^ (63 - q.toNat) * 2 ^ q.toNat := by
    rw [← Nat.pow_add]
    congr 1
    omega
  rw [split] at less ⊢
  have next : m + 1 ≤ 2 ^ (63 - q.toNat) := Nat.lt_of_mul_lt_mul_right less
  refine Nat.lt_of_mul_lt_mul_left (a := 4) ?_
  calc 4 * n ≤ (4 * m + 2) * 2 ^ q.toNat := under
    _ < 4 * (m + 1) * 2 ^ q.toNat := Nat.mul_lt_mul_of_pos_right (by omega) (Nat.two_pow_pos _)
    _ = 4 * ((m + 1) * 2 ^ q.toNat) := Nat.mul_assoc _ _ _
    _ ≤ 4 * (2 ^ (63 - q.toNat) * 2 ^ q.toNat) := Nat.mul_le_mul_left 4 (Nat.mul_le_mul_right _ next)

-- What rounds to a larger double than some double is larger than that double.
theorem Large.beyond (large : Large m q) {least : Nat} {power : Nat} (full : 2 ^ 52 ≤ least) (bits : least < 2 ^ 53)
    (more : least * 2 ^ power ≤ m * 2 ^ q.toNat) (above : (4 * m - below m q) * 2 ^ q.toNat ≤ 4 * n) :
    m = least ∧ q.toNat = power ∨ least * 2 ^ power < n := by
  have isFull := large.full (by have := large.pos; omega)
  have isBits := large.bits
  have near : below m q = 1 ∨ below m q = 2 ∧ m ≠ 2 ^ 52 := by
    have lowest := large.pos
    unfold below
    split
    · exact .inl rfl
    · rename_i inside
      exact .inr ⟨rfl, fun same => inside ⟨same, by omega⟩⟩
  have some := Nat.two_pow_pos power
  have later : power ≤ q.toNat := by
    have wide : 2 ^ (52 + power) < 2 ^ (53 + q.toNat) :=
      calc 2 ^ (52 + power) = 2 ^ 52 * 2 ^ power := Nat.pow_add 2 52 _
        _ ≤ least * 2 ^ power := Nat.mul_le_mul_right _ full
        _ ≤ m * 2 ^ q.toNat := more
        _ < 2 ^ 53 * 2 ^ q.toNat := Nat.mul_lt_mul_of_pos_right isBits (Nat.two_pow_pos _)
        _ = 2 ^ (53 + q.toNat) := (Nat.pow_add 2 53 _).symm
    have exponents := (Nat.pow_lt_pow_iff_right (by decide : 1 < 2)).mp wide
    omega
  have apart : ∀ places, 4 * least < places → places * 2 ^ power ≤ (4 * m - below m q) * 2 ^ q.toNat →
      least * 2 ^ power < n := by
    intro places wide reached
    refine Nat.lt_of_mul_lt_mul_left (a := 4) ?_
    calc 4 * (least * 2 ^ power) = 4 * least * 2 ^ power := (Nat.mul_assoc _ _ _).symm
      _ < places * 2 ^ power := Nat.mul_lt_mul_of_pos_right wide some
      _ ≤ (4 * m - below m q) * 2 ^ q.toNat := reached
      _ ≤ 4 * n := above
  rcases Nat.lt_or_eq_of_le later with higher | rfl
  · have double : 2 * 2 ^ power ≤ 2 ^ q.toNat := by
      rw [← Nat.pow_succ']
      exact Nat.pow_le_pow_right (by decide) higher
    refine .inr (apart ((2 ^ 54 - 1) * 2) (by omega) ?_)
    rw [Nat.mul_assoc]
    exact Nat.mul_le_mul (by omega) double
  · have ordered : least ≤ m := Nat.le_of_mul_le_mul_right more some
    rcases Nat.lt_or_eq_of_le ordered with larger | same
    · exact .inr (apart (4 * m - below m q) (by omega) (Nat.le_refl _))
    · exact .inl ⟨same.symm, rfl⟩

theorem le_large (large : Large m q) (text : (digits m q).positional = n.repr.toList)
    (above : (4 * m - below m q) * 2 ^ q.toNat ≤ 4 * n) : 10 ^ 16 ≤ n := by
  have first : (digits (5 * 10 ^ 15) 1).positional = (10 ^ 16).repr.toList := by decide +kernel
  have least : 5 * 10 ^ 15 * 2 ^ 1 ≤ m * 2 ^ q.toNat := large.least
  rcases large.beyond (by decide) (by decide) least above with ⟨rfl, power⟩ | more
  · have isOne : q = 1 := by omega
    rw [isOne, first, String.toList_inj, Nat.repr_inj] at text
    exact Nat.le_of_eq text
  · omega

-- The least double beyond the integers is written as a number that is a little larger.
theorem large_beyond (large : Large m q) (text : (digits m q).positional = n.repr.toList)
    (above : (4 * m - below m q) * 2 ^ q.toNat ≤ 4 * n) (more : 2 ^ 63 ≤ m * 2 ^ q.toNat) : 2 ^ 63 < n := by
  have first : (digits (2 ^ 52) 11).positional = (9223372036854776000).repr.toList := by decide +kernel
  have least : 2 ^ 52 * 2 ^ 11 ≤ m * 2 ^ q.toNat := more
  rcases large.beyond (by decide) (by decide) least above with ⟨rfl, power⟩ | more
  · have isPower : q = 11 := by omega
    rw [isPower, first, String.toList_inj, Nat.repr_inj] at text
    omega
  · omega

end Shortest

namespace FloatText

theorem large_parts (finite : x.isFinite = true) (large : isModest x = false) :
    Shortest.Large (BinaryParts.ofFloat x).magnitude (BinaryParts.ofFloat x).power ∧
      (BinaryParts.ofFloat x).floor =
        (BinaryParts.ofFloat x).magnitude * 2 ^ (BinaryParts.ofFloat x).power.toNat := by
  have most : 10 ^ 16 ≤ (BinaryParts.ofFloat x).floor := by
    rw [← Nat.not_lt, ← isModest_eq, large]
    exact Bool.false_ne_true
  have some : 0 < (BinaryParts.ofFloat x).magnitude := by
    refine Nat.pos_of_ne_zero fun zero => ?_
    unfold BinaryParts.floor at most
    rw [zero, Nat.zero_mul, Nat.zero_div, ite_self] at most
    exact absurd most (by decide)
  obtain ⟨canonical, power⟩ := finite_ofFloat finite some
  have bits := canonical.bits
  have nonneg : 0 ≤ (BinaryParts.ofFloat x).power := by
    refine Int.not_lt.mp fun negative => ?_
    unfold BinaryParts.floor at most
    rw [if_neg (Int.not_le.mpr negative)] at most
    have few := Nat.div_le_self (BinaryParts.ofFloat x).magnitude (Nat.pow 2 (-(BinaryParts.ofFloat x).power).toNat)
    omega
  have whole : (BinaryParts.ofFloat x).floor =
      (BinaryParts.ofFloat x).magnitude * 2 ^ (BinaryParts.ofFloat x).power.toNat := if_pos nonneg
  exact ⟨⟨canonical, power, whole ▸ most⟩, whole⟩

theorem json_large (finite : x.isFinite = true) (large : isModest x = false) :
    ∃ N : Nat, (json x).toList = (sign x).toList ++ N.repr.toList ∧ 10 ^ 16 ≤ N ∧
      ((BinaryParts.ofFloat x).floor < 2 ^ 63 → N < 2 ^ 63) ∧
        (2 ^ 63 ≤ (BinaryParts.ofFloat x).floor → 2 ^ 63 < N) := by
  obtain ⟨isLarge, whole⟩ := large_parts finite large
  obtain ⟨N, text, above, under⟩ := Shortest.digits_large isLarge
  have isPlain : json x = plain x := by
    unfold json
    rw [finite, large, Bool.and_false]
    rfl
  refine ⟨N, ?_, Shortest.le_large isLarge text above, fun less => ?_, fun more => ?_⟩
  · rw [isPlain, plain_toList finite, digits_pos isLarge.positive, text]
  · exact Shortest.large_within isLarge under (whole ▸ less)
  · exact Shortest.large_beyond isLarge text above (whole ▸ more)

end FloatText

namespace Integer

theorem toList_text (n : Int64) :
    (text n).toList = (if n.toInt < 0 then ['-'] else []) ++ n.toInt.natAbs.repr.toList := by
  rcases text_cases n with ⟨m, same, text⟩ | ⟨m, same, text⟩
  · rw [text, same]
    rfl
  · rw [text, same, if_pos (Int.negSucc_lt_zero m)]
    rfl

theorem mem_sign {negative : Prop} [Decidable negative] {c : Char} (here : c ∈ if negative then ['-'] else []) :
    c = '-' := by
  split at here
  · exact List.mem_singleton.mp here
  · cases here

-- Digits do not go on with a sign.
theorem signed_inj {negative negative' : Prop} [Decidable negative] [Decidable negative'] {a b : Nat}
    (same : (if negative then ['-'] else []) ++ a.repr.toList = (if negative' then ['-'] else []) ++ b.repr.toList) :
    (negative ↔ negative') ∧ a = b := by
  have noSign : ∀ {n : Nat} {rest : List Char}, n.repr.toList ≠ '-' :: rest := by
    intro n rest minus
    have digit := isDigit_of_mem_repr n (minus ▸ List.mem_cons_self)
    exact absurd digit (by decide)
  split at same <;> split at same
  · exact ⟨iff_of_true ‹_› ‹_›, Nat.repr_injective (String.toList_inj.mp (List.cons.inj same).2)⟩
  · exact absurd same.symm noSign
  · exact absurd same noSign
  · exact ⟨iff_of_false ‹_› ‹_›, Nat.repr_injective (String.toList_inj.mp same)⟩

theorem exists_text (negative : Bool) {a : Nat} (some : 0 < a) (inside : a < 2 ^ 63) :
    ∃ n, (text n).toList = (if negative then ['-'] else []) ++ a.repr.toList := by
  cases negative with
  | false =>
    have value : (Int64.ofInt a).toInt = a := Int64.toInt_ofInt_of_le (by omega) (by omega)
    refine ⟨Int64.ofInt a, ?_⟩
    rw [toList_text, value, if_neg Bool.false_ne_true, if_neg (by omega)]
    rfl
  | true =>
    have value : (Int64.ofInt (-a)).toInt = -a := Int64.toInt_ofInt_of_le (by omega) (by omega)
    refine ⟨Int64.ofInt (-a), ?_⟩
    rw [toList_text, value, if_pos rfl, if_pos (by omega), Int.natAbs_neg]
    rfl

end Integer

namespace FloatText

-- Only doubles from 10 ^ 16 up to the end of the integers are written as an integer is, one from 10 ^ 16.
theorem large_of_text (finite : x.isFinite = true) {i : Int64} (same : json x = Integer.text i) :
    (10 ^ 16 ≤ (BinaryParts.ofFloat x).floor ∧ (BinaryParts.ofFloat x).floor < 2 ^ 63) ∧
      10 ^ 16 ≤ i.toInt.natAbs := by
  have large : isModest x = false := by
    refine Bool.eq_false_iff.mpr fun modest => ?_
    obtain ⟨negative, whole, fraction, text, _⟩ := readsBack_json finite fun _ => modest
    have point : '.' ∈ (Integer.text i).toList := by
      rw [← same, text]
      simp
    rw [Integer.toList_text] at point
    rcases List.mem_append.mp point with minus | digit
    · exact absurd (Integer.mem_sign minus) (by decide)
    · exact absurd (Integer.isDigit_of_mem_repr _ digit) (by decide)
  obtain ⟨N, text, least, _, more⟩ := json_large finite large
  rw [same, Integer.toList_text, sign_toList] at text
  have isNumber := (Integer.signed_inj text).2
  have high := Int64.toInt_lt i
  have low := Int64.le_toInt i
  refine ⟨⟨?_, Nat.not_le.mp fun beyond => ?_⟩, by omega⟩
  · rw [← Nat.not_lt, ← isModest_eq, large]
    exact Bool.false_ne_true
  · have outside := more beyond
    omega

theorem text_of_large (finite : x.isFinite = true) (least : 10 ^ 16 ≤ (BinaryParts.ofFloat x).floor)
    (less : (BinaryParts.ofFloat x).floor < 2 ^ 63) : ∃ i, json x = Integer.text i := by
  have large : isModest x = false := by
    rw [← Bool.not_eq_true, isModest_eq]
    omega
  obtain ⟨N, text, least, within, _⟩ := json_large finite large
  obtain ⟨i, same⟩ := Integer.exists_text (BinaryParts.ofFloat x).negative (by omega) (within less)
  refine ⟨i, ?_⟩
  rw [← String.toList_inj, text, same, sign_toList]

end FloatText
end TreePath
