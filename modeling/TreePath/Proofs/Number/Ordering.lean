import TreePath.Proofs.Number.Quotients
import TreePath.Proofs.Text.Order
namespace TreePath.Binary
open Float.Model (Format UnpackedFloat totalExponent)
open Float.Model.UnpackedFloat

variable {m m₁ m₂ n : Nat} {q q₁ q₂ : Int} {sign : Sign} {f g : UnpackedFloat} {x y : Float}

-- A finite double is a whole multiple of the least positive one; this is how many.
def scaled (m : Nat) (q : Int) : Nat := m * 2 ^ (q + 1074).toNat

-- More than any finite double.
def beyond : Nat := scaled (2 ^ 53) 971

-- Where a number stands among all doubles.
def rank : UnpackedFloat → Int
  | .infinity sign => sign.apply beyond
  | .notANumber => 0
  | .zero _ => 0
  | .finite sign m q _ => sign.apply (scaled m q)

-- A number, in the form that its bits give.
def Ordered : UnpackedFloat → Prop
  | .notANumber => False
  | .finite _ m q _ => Canonical m q ∧ q ≤ 971
  | _ => True

theorem scaled_pos (positive : 0 < m) : 0 < scaled m q := Nat.mul_pos positive (Nat.pow_pos (by decide))

theorem scaled_lt_beyond (canonical : Canonical m q) (inside : q ≤ 971) : scaled m q < beyond := by
  have lowest := canonical.lowest
  have power : (q + 1074).toNat ≤ ((971 : Int) + 1074).toNat := by omega
  calc scaled m q < 2 ^ 53 * 2 ^ (q + 1074).toNat :=
        Nat.mul_lt_mul_of_pos_right canonical.bits (Nat.pow_pos (by decide))
    _ ≤ beyond := Nat.mul_le_mul_left _ (Nat.pow_le_pow_right (by decide) power)

-- A number with the higher power is the greater one, as it has all its bits.
theorem scaled_lt (canonical₁ : Canonical m₁ q₁) (canonical₂ : Canonical m₂ q₂) (less : q₁ < q₂) :
    scaled m₁ q₁ < scaled m₂ q₂ := by
  have lowest := canonical₁.lowest
  have full := canonical₂.full (by omega)
  have power : (q₁ + 1074).toNat + 1 ≤ (q₂ + 1074).toNat := by omega
  calc scaled m₁ q₁ < 2 ^ 53 * 2 ^ (q₁ + 1074).toNat :=
        Nat.mul_lt_mul_of_pos_right canonical₁.bits (Nat.pow_pos (by decide))
    _ = 2 ^ 52 * 2 ^ ((q₁ + 1074).toNat + 1) := by rw [Nat.pow_succ]; omega
    _ ≤ m₂ * 2 ^ (q₂ + 1074).toNat := Nat.mul_le_mul full (Nat.pow_le_pow_right (by decide) power)

theorem scaled_compares (canonical₁ : Canonical m₁ q₁) (canonical₂ : Canonical m₂ q₂) :
    ((compare q₁ q₂).then (compare m₁ m₂)).Compares (scaled m₁ q₁) (scaled m₂ q₂) := by
  rcases Int.lt_trichotomy q₁ q₂ with less | rfl | more
  · rw [Int.compare_eq_lt.mpr less]
    exact scaled_lt canonical₁ canonical₂ less
  · rw [Int.compare_eq_eq.mpr rfl]
    rcases Nat.lt_trichotomy m₁ m₂ with less | rfl | more
    · rw [Nat.compare_eq_lt.mpr less]
      exact Nat.mul_lt_mul_of_pos_right less (Nat.pow_pos (by decide))
    · rw [Nat.compare_eq_eq.mpr rfl]
      rfl
    · rw [Nat.compare_eq_gt.mpr more]
      exact Nat.mul_lt_mul_of_pos_right more (Nat.pow_pos (by decide))
  · rw [Int.compare_eq_gt.mpr more]
    exact scaled_lt canonical₂ canonical₁ more

theorem compares_cast {order : Ordering} {a b : Nat} (compares : order.Compares a b) :
    order.Compares (a : Int) b ∧ order.Compares (-b : Int) (-a) := by
  cases order with
  | lt | gt =>
    have less := Int.ofNat_lt.mpr compares
    exact ⟨less, Int.neg_lt_neg less⟩
  | eq => exact ⟨congrArg Nat.cast compares, congrArg (fun n : Nat => (-n : Int)) (Eq.symm compares)⟩

theorem beyond_pos : 0 < beyond := scaled_pos (by decide)

-- Of two numbers, the sign of the one that is farther from zero decides, whatever the sign of the other.
theorem apply_lt {near far : Nat} (nearer : near < far) (sign : Sign) :
    sign.apply near < Sign.positive.apply far := by
  cases sign with
  | negative => exact show -(near : Int) < far by omega
  | positive => exact Int.ofNat_lt.mpr nearer

theorem lt_apply {near far : Nat} (nearer : near < far) (sign : Sign) :
    Sign.negative.apply far < sign.apply near := by
  cases sign with
  | negative => exact Int.neg_lt_neg (Int.ofNat_lt.mpr nearer)
  | positive => exact show -(far : Int) < near by omega

-- Infinity is farther from zero than every finite number, and those with the same sign go by powers and magnitudes.
theorem compare_rank (left : Ordered f) (right : Ordered g) :
    ∃ order, f.compare g = some order ∧ order.Compares (rank f) (rank g) := by
  cases f with
  | notANumber => cases left
  | infinity s =>
    cases g with
    | notANumber => cases right
    | infinity t =>
      have apart : -(beyond : Int) < beyond := neg_lt_self (Int.ofNat_lt.mpr beyond_pos)
      cases s with
      | negative =>
        cases t with
        | negative => exact ⟨.eq, rfl, rfl⟩
        | positive => exact ⟨.lt, rfl, apart⟩
      | positive =>
        cases t with
        | negative => exact ⟨.gt, rfl, apart⟩
        | positive => exact ⟨.eq, rfl, rfl⟩
    | zero t =>
      cases s with
      | negative => exact ⟨.lt, rfl, lt_apply beyond_pos .positive⟩
      | positive => exact ⟨.gt, rfl, apply_lt beyond_pos .positive⟩
    | finite t m q some =>
      have inside := scaled_lt_beyond right.1 right.2
      cases s with
      | negative => exact ⟨.lt, rfl, lt_apply inside t⟩
      | positive => exact ⟨.gt, rfl, apply_lt inside t⟩
  | zero s =>
    cases g with
    | notANumber => cases right
    | infinity t =>
      cases t with
      | negative => exact ⟨.gt, rfl, lt_apply beyond_pos .positive⟩
      | positive => exact ⟨.lt, rfl, apply_lt beyond_pos .positive⟩
    | zero t => exact ⟨.eq, rfl, rfl⟩
    | finite t m q some =>
      cases t with
      | negative => exact ⟨.gt, rfl, lt_apply (scaled_pos some) .positive⟩
      | positive => exact ⟨.lt, rfl, apply_lt (scaled_pos some) .positive⟩
  | finite s m q some =>
    cases g with
    | notANumber => cases right
    | infinity t =>
      have inside := scaled_lt_beyond left.1 left.2
      cases t with
      | negative => exact ⟨.gt, rfl, lt_apply inside s⟩
      | positive => exact ⟨.lt, rfl, apply_lt inside s⟩
    | zero t =>
      cases s with
      | negative => exact ⟨.lt, rfl, lt_apply (scaled_pos some) .positive⟩
      | positive => exact ⟨.gt, rfl, apply_lt (scaled_pos some) .positive⟩
    | finite t m' q' some' =>
      have least := scaled_pos (q := q) some
      have least' := scaled_pos (q := q') some'
      have magnitudes := scaled_compares left.1 right.1
      cases s with
      | negative =>
        cases t with
        | negative => exact ⟨_, rfl, Ordering.compares_swap.mpr (compares_cast magnitudes).2⟩
        | positive => exact ⟨.lt, rfl, show -(scaled m q : Int) < scaled m' q' by omega⟩
      | positive =>
        cases t with
        | negative => exact ⟨.gt, rfl, show -(scaled m' q' : Int) < scaled m q by omega⟩
        | positive => exact ⟨_, rfl, (compares_cast magnitudes).1⟩

-- Where a double stands.
def standing (x : Float) : Int := rank x.toModel.unpack

theorem standing_finite {some : 0 < m} (same : x.toModel.unpack = .finite sign m q some) :
    x.isNaN = false ∧ standing x = sign.apply (scaled m q) := by
  constructor
  · change x.toModel.unpack.isNaN = false
    rw [same]
    rfl
  · unfold standing
    rw [same]
    rfl

theorem ordered_unpack (number : x.isNaN = false) : Ordered x.toModel.unpack := by
  cases same : x.toModel.unpack with
  | notANumber =>
    have isNaN : x.isNaN = x.toModel.unpack.isNaN := rfl
    rw [isNaN, same] at number
    cases number
  | infinity sign => trivial
  | zero sign => trivial
  | finite sign m q positive =>
    have isFinite : x.isFinite = x.toModel.unpack.isFinite := rfl
    have finite : x.isFinite = true := by
      rw [isFinite, same]
      rfl
    have parts := finite_ofFloat finite
    rw [toModel_eq finite, unpack_pack parts] at same
    generalize BinaryParts.ofFloat x = p at parts same
    rcases Nat.eq_zero_or_pos p.magnitude with zero | some
    · rw [unpacked_zero zero] at same
      cases same
    · rw [unpacked_pos some] at same
      injection same with _ magnitude power
      exact magnitude ▸ power ▸ parts some

theorem lt_iff : x < y ↔ x.toModel.unpack.compare y.toModel.unpack = some .lt := by
  change decide (x.toModel < y.toModel) = true ↔ _
  rw [decide_eq_true_iff]
  exact beq_iff_eq

theorem beq_iff : (x == y) = true ↔ x.toModel.unpack.compare y.toModel.unpack = some .eq := by
  change (x.toModel.unpack.compare y.toModel.unpack == some .eq) = true ↔ _
  exact beq_iff_eq

theorem compare?_standing (left : x.isNaN = false) (right : y.isNaN = false) :
    ∃ order, compare? x y = some order ∧ order.Compares (standing x) (standing y) := by
  obtain ⟨order, found, compares⟩ := compare_rank (ordered_unpack left) (ordered_unpack right)
  obtain ⟨order', found', compares'⟩ := compare_rank (ordered_unpack right) (ordered_unpack left)
  refine ⟨order, ?_, compares⟩
  unfold compare?
  simp only [lt_iff, beq_iff, found, found', Option.some.injEq]
  cases order with
  | lt => rfl
  | eq => rfl
  | gt => exact if_pos (compares'.eq_lt.mpr compares)

theorem compare?_isNaN (missing : x.isNaN = true ∨ y.isNaN = true) : compare? x y = none := by
  have isNaN : ∀ z : Float, z.isNaN = true → z.toModel.unpack = .notANumber := by
    intro z missing
    change z.toModel.unpack.isNaN = true at missing
    cases same : z.toModel.unpack with
    | notANumber => rfl
    | infinity | zero | finite =>
      rw [same] at missing
      cases missing
  have unordered : x.toModel.unpack.compare y.toModel.unpack = none ∧
      y.toModel.unpack.compare x.toModel.unpack = none := by
    rcases missing with missing | missing
    · rw [isNaN x missing]
      cases y.toModel.unpack <;> exact ⟨rfl, rfl⟩
    · rw [isNaN y missing]
      cases x.toModel.unpack <;> exact ⟨rfl, rfl⟩
  unfold compare?
  simp only [lt_iff, beq_iff, unordered.1, unordered.2]
  rfl

end TreePath.Binary
