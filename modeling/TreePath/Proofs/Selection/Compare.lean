import TreePath.Proofs.Number.Conversion
import TreePath.Selection.Compare
namespace TreePath
open Ordering

-- Kinds of values that are compared with one another.
inductive Kind where
  | number
  | text
  | truth

namespace Value

-- Null, arrays, objects and what is no number are compared with nothing.
def kind? : Value → Option Kind
  | .integer _ => some .number
  | .float x => if x.isNaN then none else some .number
  | .string _ => some .text
  | .boolean _ => some .truth
  | _ => none

-- Where a number stands among the doubles; an integer stands where the nearest double does.
def standing : Value → Int
  | .integer n => Binary.standing (Binary.ofInteger n)
  | .float x => Binary.standing x
  | _ => 0

-- A value that two others are equal to, though one of them may be greater than the other: it is not compared with
-- them, or it is the double that both, as integers, are rounded to.
inductive Blurs : Value → Value → Value → Prop where
  | apart {a b c : Value} (other : b.kind? ≠ a.kind?) : Blurs b a c
  | rounded {m n : Int64} {x : Float} (first : order (.integer m) (.float x) = .eq)
      (second : order (.float x) (.integer n) = .eq) : Blurs (.float x) (.integer m) (.integer n)

variable {a b c : Value} {m n : Int64} {x y : Float}

theorem standing_mono (le : m.toInt ≤ n.toInt) : (Value.integer m).standing ≤ (Value.integer n).standing := by
  change Binary.standing (Binary.ofInteger m) ≤ Binary.standing (Binary.ofInteger n)
  rw [(Binary.standing_ofInteger m).2, (Binary.standing_ofInteger n).2]
  exact Int.mul_le_mul_of_nonneg_right (Binary.nearest_mono le) (Int.natCast_nonneg _)

theorem kind?_float : (Value.float x).kind? = some .number ↔ x.isNaN = false := by
  change (if x.isNaN then none else some Kind.number) = some .number ↔ _
  cases x.isNaN with
  | true => exact iff_of_false nofun nofun
  | false => exact iff_of_true rfl rfl

theorem order_integers (m n : Int64) : (order (.integer m) (.integer n)).Compares m.toInt n.toInt :=
  compareInt_compares _ _

theorem order_floats (left : x.isNaN = false) (right : y.isNaN = false) :
    ((Binary.compare? x y).getD .eq).Compares (Binary.standing x) (Binary.standing y) := by
  obtain ⟨order, found, compares⟩ := Binary.compare?_standing left right
  rw [found]
  exact compares

-- Numbers that are not both integers are compared as doubles.
theorem order_numbers (left : a.kind? = some .number) (right : b.kind? = some .number)
    (mixed : ∀ m n, a = .integer m → b ≠ .integer n) : (order a b).Compares a.standing b.standing := by
  cases a with
  | null | string | boolean | array | object => cases left
  | integer m =>
    have converted := (Binary.standing_ofInteger m).1
    cases b with
    | null | string | boolean | array | object => cases right
    | integer n => exact absurd rfl (mixed m n rfl)
    | float y => exact order_floats converted (kind?_float.mp right)
  | float x =>
    cases b with
    | null | string | boolean | array | object => cases right
    | integer n => exact order_floats (kind?_float.mp left) (Binary.standing_ofInteger n).1
    | float y => exact order_floats (kind?_float.mp left) (kind?_float.mp right)

theorem order_isNaN (missing : x.isNaN = true ∨ y.isNaN = true) : (Binary.compare? x y).getD .eq = .eq := by
  rw [Binary.compare?_isNaN missing]
  rfl

-- Values of unlike kinds, and values of none, are equal.
theorem order_apart (apart : a.kind? = none ∨ a.kind? ≠ b.kind?) : order a b = .eq := by
  have alike : ∀ {kind : Kind}, ¬(some kind = none ∨ some kind ≠ some kind) := fun apart =>
    apart.elim nofun fun unequal => unequal rfl
  cases a with
  | null | array | object => rfl
  | integer m =>
    cases b with
    | null | string | boolean | array | object => rfl
    | integer n => exact absurd apart alike
    | float y =>
      cases missing : y.isNaN with
      | true => exact order_isNaN (.inr missing)
      | false =>
        rw [kind?_float.mpr missing] at apart
        exact absurd apart alike
  | float x =>
    cases left : x.isNaN with
    | true =>
      cases b with
      | null | string | boolean | array | object => rfl
      | integer n => exact order_isNaN (.inl left)
      | float y => exact order_isNaN (.inl left)
    | false =>
      rw [kind?_float.mpr left] at apart
      cases b with
      | null | string | boolean | array | object => rfl
      | integer n => exact absurd apart alike
      | float y =>
        cases right : y.isNaN with
        | true => exact order_isNaN (.inr right)
        | false =>
          rw [kind?_float.mpr right] at apart
          exact absurd apart alike
  | string s =>
    cases b with
    | string t => exact absurd apart alike
    | null | integer | float | boolean | array | object => rfl
  | boolean p =>
    cases b with
    | boolean q => exact absurd apart alike
    | null | integer | float | string | array | object => rfl

-- Values that are not equal are of one kind.
theorem order_alike (unequal : order a b ≠ .eq) : ∃ kind, a.kind? = some kind ∧ b.kind? = some kind := by
  have same : a.kind? = b.kind? := by
    by_contra other
    exact unequal (order_apart (.inr other))
  cases isKind : a.kind? with
  | none => exact absurd (order_apart (.inl isKind)) unequal
  | some kind => exact ⟨kind, rfl, same.symm.trans isKind⟩

theorem kind?_text (text : a.kind? = some .text) : ∃ s, a = .string s := by
  cases a with
  | string s => exact ⟨s, rfl⟩
  | float x =>
    change (if x.isNaN then none else some Kind.number) = some .text at text
    split at text <;> cases text
  | null | integer | boolean | array | object => cases text

theorem kind?_truth (truth : a.kind? = some .truth) : ∃ p, a = .boolean p := by
  cases a with
  | boolean p => exact ⟨p, rfl⟩
  | float x =>
    change (if x.isNaN then none else some Kind.number) = some .truth at truth
    split at truth <;> cases truth
  | null | integer | string | array | object => cases truth

-- Numbers that come one after another stand so.
theorem standing_le (left : a.kind? = some .number) (right : b.kind? = some .number) (upward : order a b ≠ .gt) :
    a.standing ≤ b.standing := by
  by_cases integers : ∃ m n, a = .integer m ∧ b = .integer n
  · obtain ⟨m, n, rfl, rfl⟩ := integers
    exact standing_mono ((order_integers m n).ne_gt.mp upward)
  · exact (order_numbers left right fun m n isFirst isSecond => integers ⟨m, n, isFirst, isSecond⟩).ne_gt.mp upward

-- The order of two values is reversed with them.
theorem order_swap (a b : Value) : order b a = (order a b).swap := by
  by_cases equal : order a b = .eq ∧ order b a = .eq
  · rw [equal.1, equal.2]
    rfl
  · have alike : ∃ kind, a.kind? = some kind ∧ b.kind? = some kind := by
      by_cases first : order a b = .eq
      · obtain ⟨kind, left, right⟩ := order_alike fun second => equal ⟨first, second⟩
        exact ⟨kind, right, left⟩
      · exact order_alike first
    obtain ⟨kind, left, right⟩ := alike
    cases kind with
    | number =>
      by_cases integers : ∃ m n, a = .integer m ∧ b = .integer n
      · obtain ⟨m, n, rfl, rfl⟩ := integers
        exact (order_integers n m).inj (compares_swap.mpr (order_integers m n))
      · have first := order_numbers left right fun m n isFirst isSecond => integers ⟨m, n, isFirst, isSecond⟩
        have second := order_numbers right left fun m n isFirst isSecond => integers ⟨n, m, isSecond, isFirst⟩
        exact second.inj (compares_swap.mpr first)
    | text =>
      obtain ⟨s, rfl⟩ := kind?_text left
      obtain ⟨t, rfl⟩ := kind?_text right
      exact (compareText_compares t s).inj (compares_swap.mpr (compareText_compares s t))
    | truth =>
      obtain ⟨p, rfl⟩ := kind?_truth left
      obtain ⟨q, rfl⟩ := kind?_truth right
      exact (compareBool_compares q p).inj (compares_swap.mpr (compareBool_compares p q))

-- Only such a value comes between a greater value and a lesser one.
theorem blurs_of_between (first : order a b ≠ .gt) (second : order b c ≠ .gt) (greater : order a c = .gt) :
    Blurs b a c := by
  obtain ⟨kind, left, right⟩ := order_alike (a := a) (b := c) (by rw [greater]; nofun)
  by_cases same : b.kind? = a.kind?
  · have middle := same.trans left
    cases kind with
    | number =>
      have up := standing_le left middle first
      have upAgain := standing_le middle right second
      by_cases integers : ∃ m n, a = .integer m ∧ c = .integer n
      · obtain ⟨m, n, rfl, rfl⟩ := integers
        have more := (order_integers m n).eq_gt.mp greater
        have down := standing_mono (le_of_lt more)
        cases b with
        | null | string | boolean | array | object => cases middle
        | integer k =>
          have through := ((order_integers m k).ne_gt.mp first).trans ((order_integers k n).ne_gt.mp second)
          exact absurd through (not_le.mpr more)
        | float x =>
          have firstSame := (order_numbers left middle nofun).eq_eq.mpr (le_antisymm up (upAgain.trans down))
          have secondSame := (order_numbers middle right nofun).eq_eq.mpr (le_antisymm upAgain (down.trans up))
          exact .rounded firstSame secondSame
      · have compares := order_numbers left right fun m n isFirst isThird => integers ⟨m, n, isFirst, isThird⟩
        exact absurd (up.trans upAgain) (not_le.mpr (compares.eq_gt.mp greater))
    | text =>
      obtain ⟨s, rfl⟩ := kind?_text left
      obtain ⟨t, rfl⟩ := kind?_text middle
      obtain ⟨u, rfl⟩ := kind?_text right
      have through := ((compareText_compares s t).ne_gt.mp first).trans ((compareText_compares t u).ne_gt.mp second)
      exact absurd through (not_le.mpr ((compareText_compares s u).eq_gt.mp greater))
    | truth =>
      obtain ⟨p, rfl⟩ := kind?_truth left
      obtain ⟨q, rfl⟩ := kind?_truth middle
      obtain ⟨r, rfl⟩ := kind?_truth right
      have through := ((compareBool_compares p q).ne_gt.mp first).trans ((compareBool_compares q r).ne_gt.mp second)
      exact absurd through (not_le.mpr ((compareBool_compares p r).eq_gt.mp greater))
  · exact .apart same

theorem Blurs.equal (blurs : Blurs b a c) (greater : order a c = .gt) : order a b = .eq ∧ order b c = .eq := by
  cases blurs with
  | apart other =>
    obtain ⟨kind, left, right⟩ := order_alike (a := a) (b := c) (by rw [greater]; nofun)
    have otherThird : b.kind? ≠ c.kind? := fun same => other (same.trans (right.trans left.symm))
    exact ⟨order_apart (.inr (Ne.symm other)), order_apart (.inr otherThird)⟩
  | rounded first second => exact ⟨first, second⟩

theorem order_trans_iff (a b c : Value) :
    (order a b ≠ .gt → order b c ≠ .gt → order a c ≠ .gt) ↔ ¬(order a c = .gt ∧ Blurs b a c) := by
  constructor
  · rintro trans ⟨greater, blurs⟩
    obtain ⟨first, second⟩ := blurs.equal greater
    exact trans (by rw [first]; nofun) (by rw [second]; nofun) greater
  · intro clear first second greater
    exact clear ⟨greater, blurs_of_between first second greater⟩

end Value
end TreePath
