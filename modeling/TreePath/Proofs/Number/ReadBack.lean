import TreePath.Proofs.Number.Digits
import TreePath.Proofs.Number.Quotients
import TreePath.Proofs.Token.Literals
namespace TreePath
open Binary

variable {m : Nat} {q : Int} {x : Float} {negative : Bool} {whole fraction text : List Char} {v : ℚ}

namespace Binary

theorem eq_ofParts (finite : x.isFinite = true) : x = ofParts (BinaryParts.ofFloat x) :=
  congrArg Float.ofModel (toModel_eq finite)

theorem Rounds.pos (rounds : Rounds m q v) (canonical : Canonical m q) : 0 < v := by
  have least := @below_le m q
  have positive := canonical.positive
  have some : (0 : ℚ) < ((4 * m - below m q : Nat) : ℚ) := by exact_mod_cast (by omega : 0 < 4 * m - below m q)
  have above := lt_of_lt_of_le (mul_pos some (zpow_pos (by norm_num) q)) rounds.above
  linarith

theorem realOf_near (canonical : Canonical m q) (power : q ≤ 971) (nonempty : fraction ≠ [])
    (rounds : Rounds m q (Integer.ofDigits (whole ++ fraction) / 10 ^ fraction.length)) :
    Token.realOf negative whole fraction = ofParts ⟨negative, m, q⟩ := by
  have places : 0 < fraction.length := List.length_pos_iff.mpr nonempty
  have some : 0 < Integer.ofDigits (whole ++ fraction) := by
    refine Nat.pos_of_ne_zero fun zero => ?_
    have positive := rounds.pos canonical
    rw [zero, Nat.cast_zero, zero_div] at positive
    exact lt_irrefl _ positive
  have magnitude := ofScientific_near canonical some places rounds
  unfold Token.realOf
  rw [magnitude]
  cases negative with
  | false => rfl
  | true =>
    have finite : FiniteParts ⟨false, m, q⟩ := fun _ => ⟨canonical, power⟩
    have negated : (unpacked ⟨false, m, q⟩).neg = unpacked ⟨true, m, q⟩ := by
      rw [unpacked_pos (p := ⟨false, m, q⟩) canonical.positive, unpacked_pos (p := ⟨true, m, q⟩) canonical.positive]
      rfl
    change Float.ofModel (.pack (Float.Model.pack (unpacked ⟨false, m, q⟩)).unpack.neg) = _
    rw [unpack_pack finite, negated]
    rfl

theorem realOf_zero : Token.realOf negative ['0'] ['0'] = ofParts ⟨negative, 0, q⟩ := by
  cases negative <;> rfl

end Binary

namespace FloatText

theorem sign_toList : (sign x).toList = if (BinaryParts.ofFloat x).negative then ['-'] else [] := by
  unfold sign
  split <;> rfl

theorem readsBack_near (finite : x.isFinite = true) (some : 0 < (BinaryParts.ofFloat x).magnitude)
    (spelled : FractionText text v)
    (rounds : Rounds (BinaryParts.ofFloat x).magnitude (BinaryParts.ofFloat x).power v) :
    ReadsBack ((sign x).toList ++ text) x := by
  obtain ⟨canonical, power⟩ := finite_ofFloat finite some
  obtain ⟨whole, fraction, rfl, nonempty, nonempty', digits, digits', rfl⟩ := spelled
  refine ⟨_, whole, fraction, congrArg (· ++ _) sign_toList, nonempty, nonempty', digits, digits', ?_⟩
  rw [realOf_near canonical power nonempty' rounds]
  exact (eq_ofParts finite).symm

theorem isWhole_eq : isWhole x = false ↔ (BinaryParts.ofFloat x).power < 0 ∧
    (BinaryParts.ofFloat x).magnitude % 2 ^ (-(BinaryParts.ofFloat x).power).toNat ≠ 0 := by
  unfold isWhole BinaryParts.isWhole
  simp

theorem isModest_eq : isModest x = true ↔ (BinaryParts.ofFloat x).floor < 10 ^ 16 := by
  unfold isModest
  exact decide_eq_true_iff

-- Only zero, of the whole numbers, has no magnitude.
theorem digits_pos (some : 0 < (BinaryParts.ofFloat x).magnitude) :
    digits x = Shortest.digits (BinaryParts.ofFloat x).magnitude (BinaryParts.ofFloat x).power :=
  if_neg (Nat.ne_of_gt some)

theorem plain_toList (finite : x.isFinite = true) : (plain x).toList = (sign x).toList ++ (digits x).positional := by
  unfold plain
  rw [if_pos finite, String.toList_append, String.toList_ofList]

theorem readsBack_fraction (finite : x.isFinite = true) (fraction : isWhole x = false) :
    ReadsBack (plain x).toList x := by
  obtain ⟨negative, remains⟩ := isWhole_eq.mp fraction
  have some : 0 < (BinaryParts.ofFloat x).magnitude := by
    refine Nat.pos_of_ne_zero fun zero => remains ?_
    rw [zero, Nat.zero_mod]
  obtain ⟨canonical, power⟩ := finite_ofFloat finite some
  obtain ⟨spelled, rounds, behind⟩ := Shortest.digits_fraction ⟨canonical, by omega⟩ negative remains
  rw [plain_toList finite, digits_pos some]
  exact readsBack_near finite some (spelled.positional_fraction behind) rounds

-- The parts of a whole number below 10 ^ 16.
theorem floor_parts {p : BinaryParts} (canonical : Canonical p.magnitude p.power) (whole : p.isWhole = true)
    (modest : p.floor < 10 ^ 16) : p.power < 2 ∧ 4 * p.magnitude = p.floor * 2 ^ (2 - p.power).toNat := by
  unfold BinaryParts.floor at *
  split at modest
  · rename_i nonneg
    have small : p.power < 2 := by
      refine Int.not_le.mp fun large => ?_
      have full := canonical.full (by omega)
      have four : 2 ^ 2 ≤ 2 ^ p.power.toNat := Nat.pow_le_pow_right (by decide) (by omega)
      have least := Nat.mul_le_mul full four
      exact absurd (Nat.lt_of_le_of_lt least modest) (by decide)
    refine ⟨small, ?_⟩
    have exponent : 2 = p.power.toNat + (2 - p.power).toNat := by omega
    rw [if_pos nonneg, Nat.pow_eq, Nat.mul_assoc, ← Nat.pow_add, ← exponent, Nat.mul_comm]
  · rename_i negative
    refine ⟨by omega, ?_⟩
    have exact : p.magnitude % 2 ^ (-p.power).toNat = 0 := by
      unfold BinaryParts.isWhole at whole
      simpa [negative] using whole
    have exponent : (2 - p.power).toNat = (-p.power).toNat + 2 := by omega
    rw [if_neg negative, exponent, Nat.pow_add, ← Nat.mul_assoc, Nat.pow_eq,
      Nat.div_mul_cancel (Nat.dvd_of_mod_eq_zero exact), Nat.mul_comm]

theorem readsBack_whole (finite : x.isFinite = true) (whole : isWhole x = true) (modest : isModest x = true) :
    ReadsBack (plain x ++ ".0").toList x := by
  rw [String.toList_append, plain_toList finite, List.append_assoc]
  rcases Nat.eq_zero_or_pos (BinaryParts.ofFloat x).magnitude with zero | some
  · have isZero : digits x = ⟨['0'], 1⟩ := if_pos zero
    have parts : BinaryParts.ofFloat x = ⟨(BinaryParts.ofFloat x).negative, 0, (BinaryParts.ofFloat x).power⟩ := by
      rw [← zero]
    refine ⟨(BinaryParts.ofFloat x).negative, ['0'], ['0'], ?_, List.cons_ne_nil _ _, List.cons_ne_nil _ _, ?_, ?_, ?_⟩
    · rw [sign_toList, isZero]
      rfl
    · exact fun d here => @isDigit_replicate 1 d here
    · exact fun d here => @isDigit_replicate 1 d here
    · rw [realOf_zero, ← parts]
      exact (eq_ofParts finite).symm
  · obtain ⟨canonical, _⟩ := finite_ofFloat finite some
    obtain ⟨power, product⟩ := floor_parts canonical whole (isModest_eq.mp modest)
    obtain ⟨spelled, rounds, behind⟩ := Shortest.digits_whole ⟨canonical, power⟩ product (isModest_eq.mp modest)
    rw [digits_pos some]
    exact readsBack_near finite some (spelled.positional_whole behind) rounds

-- Every number with a text that has a fraction and no exponent is read back from it.
theorem readsBack_literal (finite : x.isFinite = true) (modest : isModest x = true) (large : isTiny x = false) :
    ReadsBack (literal x).toList x := by
  unfold literal
  rw [finite, modest, large, if_neg (by decide), if_neg (by decide)]
  cases whole : isWhole x with
  | true => exact readsBack_whole finite whole modest
  | false => exact readsBack_fraction finite whole

theorem readsBack_json (finite : x.isFinite = true) (modest : isWhole x = true → isModest x = true) :
    ReadsBack (json x).toList x := by
  unfold json
  rw [finite, if_neg (by decide)]
  cases whole : isWhole x with
  | true =>
    rw [modest whole]
    exact readsBack_whole finite whole (modest whole)
  | false => exact readsBack_fraction finite whole

end FloatText
end TreePath
