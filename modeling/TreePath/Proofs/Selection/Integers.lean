import TreePath.Proofs.Selection.Slices
import TreePath.Selection.Find
namespace TreePath

-- The operators that are exact on integers wherever their result is one of 64 bits.
inductive RingOperator where
  | add
  | multiply

namespace RingOperator

def operator : RingOperator → ArithmeticOperator
  | add => .add
  | multiply => .multiply

def onIntegers : RingOperator → Int → Int → Int
  | add, a, b => a + b
  | multiply, a, b => a * b

end RingOperator

-- Arithmetic over integers, nested in any way.
inductive IntegerTree where
  | literal (n : Int64)
  | binary (operator : RingOperator) (left right : IntegerTree)

namespace IntegerTree

def operand : IntegerTree → Operand
  | literal n => .literal (.integer n)
  | binary operator left right => .path (.arithmetic operator.operator left.operand right.operand)

-- What a tree comes to, by the arithmetic of whole numbers.
def value : IntegerTree → Int
  | literal n => n.toInt
  | binary operator left right => operator.onIntegers left.value right.value

def subtrees : IntegerTree → List IntegerTree
  | literal n => [literal n]
  | binary operator left right => binary operator left right :: (left.subtrees ++ right.subtrees)

def Fits (t : IntegerTree) : Prop := Integer.lowest ≤ t.value ∧ t.value ≤ Integer.highest

-- What comes of a tree if each operator gives nothing beyond 64 bits.
def result? : IntegerTree → Option Int64
  | literal n => some n
  | binary operator left right =>
    left.result?.bind fun a => right.result?.bind fun b =>
      Integer.ofInt? (operator.onIntegers a.toInt b.toInt)

end IntegerTree

variable {operator : RingOperator} {left right t : IntegerTree} {a b n q : Int64} {m : Match}
  {labels : Option String}

namespace IntegerTree

theorem mem_subtrees_self : t ∈ t.subtrees := by
  cases t <;> exact List.mem_cons_self

theorem fits_iff : t.Fits ↔ ∃ n : Int64, n.toInt = t.value := by
  constructor
  · intro fits
    have isWord : Integer.ofInt? t.value = some (Int64.ofInt t.value) := if_pos fits
    exact ⟨_, Slice.ofInt?_eq_some_iff.mp isWord⟩
  · rintro ⟨n, same⟩
    unfold Fits
    rw [← same]
    exact Slice.word_bounds n

theorem forall_mem_subtrees {P : IntegerTree → Prop} : (∀ s ∈ (binary operator left right).subtrees, P s) ↔
    P (binary operator left right) ∧ (∀ s ∈ left.subtrees, P s) ∧ ∀ s ∈ right.subtrees, P s := by
  simp [subtrees, or_imp, forall_and]

theorem result?_eq_some_iff : t.result? = some n ↔ (∀ s ∈ t.subtrees, s.Fits) ∧ n.toInt = t.value := by
  induction t generalizing n with
  | literal k =>
    have fits : (literal k).Fits := fits_iff.mpr ⟨k, rfl⟩
    simp [result?, subtrees, fits, value, ← Int64.toInt_inj, eq_comm]
  | binary operator left right ihLeft ihRight =>
    rw [forall_mem_subtrees]
    constructor
    · intro found
      obtain ⟨a, isLeft, found⟩ := Option.bind_eq_some_iff.mp found
      obtain ⟨b, isRight, found⟩ := Option.bind_eq_some_iff.mp found
      obtain ⟨leftFits, sameLeft⟩ := ihLeft.mp isLeft
      obtain ⟨rightFits, sameRight⟩ := ihRight.mp isRight
      have same : n.toInt = (binary operator left right).value := by
        rw [Slice.ofInt?_eq_some_iff.mp found, sameLeft, sameRight, value]
      exact ⟨⟨fits_iff.mpr ⟨n, same⟩, leftFits, rightFits⟩, same⟩
    · rintro ⟨⟨_, leftFits, rightFits⟩, same⟩
      obtain ⟨a, sameLeft⟩ := fits_iff.mp (leftFits left mem_subtrees_self)
      obtain ⟨b, sameRight⟩ := fits_iff.mp (rightFits right mem_subtrees_self)
      have isWord : Integer.ofInt? (operator.onIntegers a.toInt b.toInt) = some n := by
        rw [Slice.ofInt?_eq_some_iff, same, sameLeft, sameRight, value]
      rw [result?, ihLeft.mpr ⟨leftFits, sameLeft⟩, ihRight.mpr ⟨rightFits, sameRight⟩]
      exact isWord

theorem integers_operator : Arithmetic.apply operator.operator (.integer a) (.integer b) =
    (Integer.ofInt? (operator.onIntegers a.toInt b.toInt)).map Value.integer := by
  cases operator <;> rfl

-- A side that is an integer, as a literal or as the only value found, or nothing where there is none.
inductive Side.Holds : Arithmetic.Side → Option Int64 → Prop where
  | literal (n : Int64) : Holds (.literal (.integer n)) (some n)
  | found (n? : Option Int64) : Holds (.found (n?.map Value.integer).toList) n?

theorem all_single (result : Option Value) : (Arithmetic.all [result]).getD [] = result.toList := by
  cases result <;> rfl

-- Whether the sides are literals or found, nothing on one of them leaves nothing.
theorem combine_holds {one two : Arithmetic.Side} {a? b? : Option Int64} (isOne : Side.Holds one a?)
    (isTwo : Side.Holds two b?) : Arithmetic.combine operator.operator one two =
      ((a?.bind fun a => b?.bind fun b => Integer.ofInt? (operator.onIntegers a.toInt b.toInt)).map
        Value.integer).toList := by
  have both : ∀ a b : Int64,
      (Arithmetic.all [Arithmetic.apply operator.operator (.integer a) (.integer b)]).getD [] =
        ((Integer.ofInt? (operator.onIntegers a.toInt b.toInt)).map Value.integer).toList := by
    intro a b
    rw [all_single, integers_operator]
  cases isOne with
  | literal a =>
    cases isTwo with
    | literal b => exact both a b
    | found b? =>
      cases b? with
      | none => rfl
      | some b => exact both a b
  | found a? =>
    cases a? with
    | none => cases isTwo <;> rfl
    | some a =>
      cases isTwo with
      | literal b => exact both a b
      | found b? =>
        cases b? with
        | none => rfl
        | some b => exact both a b

theorem matchesFrom_binary : (Path.arithmetic operator.operator left.operand right.operand).matchesFrom labels m =
    (Arithmetic.combine operator.operator (left.operand.side labels m) (right.operand.side labels m)).map
      (m.select (.arithmetic operator.operator left.operand right.operand)) := by
  rw [Path.matchesFrom]

theorem side_holds (labels : Option String) (m : Match) (t : IntegerTree) :
    Side.Holds (t.operand.side labels m) t.result? := by
  induction t with
  | literal n =>
    rw [operand, Operand.side]
    exact .literal n
  | binary operator left right ihLeft ihRight =>
    rw [operand, Operand.side, matchesFrom_binary, combine_holds ihLeft ihRight, List.map_map]
    have values : Match.value ∘ m.select (.arithmetic operator.operator left.operand right.operand) = id := rfl
    rw [values, List.map_id]
    exact .found (binary operator left right).result?

theorem matchesFrom_eq_result : (Path.arithmetic operator.operator left.operand right.operand).matchesFrom labels m =
    ((binary operator left right).result?.map fun n =>
      m.select (.arithmetic operator.operator left.operand right.operand) (.integer n)).toList := by
  rw [matchesFrom_binary, combine_holds (side_holds labels m left) (side_holds labels m right)]
  rw [← result?]
  cases (binary operator left right).result? <;> rfl

end IntegerTree

namespace Arithmetic

theorem toInt_ne_zero : b.toInt ≠ 0 ↔ b ≠ 0 :=
  not_congr ⟨fun same => Int64.toInt_inj.mp same, fun same => same ▸ rfl⟩

theorem divide_zero (a : Int64) : integers .divide a 0 = none := rfl

theorem divide_rest (nonzero : b ≠ 0) (rest : ¬b.toInt ∣ a.toInt) :
    integers .divide a b = some (.float (Binary.ofInteger a / Binary.ofInteger b)) := by
  have isRest : Int.tmod a.toInt b.toInt ≠ 0 := fun none => rest (Int.dvd_of_tmod_eq_zero none)
  unfold integers
  dsimp only
  rw [if_neg (toInt_ne_zero.mpr nonzero), if_neg isRest]

-- A quotient that comes out is the whole number whose product with the divisor is the dividend.
theorem divide_whole (nonzero : b ≠ 0) (divides : b.toInt ∣ a.toInt) :
    integers .divide a b = (Integer.ofInt? (a.toInt / b.toInt)).map Value.integer := by
  unfold integers
  dsimp only
  rw [if_neg (toInt_ne_zero.mpr nonzero), if_pos (Int.tmod_eq_zero_of_dvd divides),
    Int.tdiv_eq_ediv_of_dvd divides]

-- Whether the whole quotient has 64 bits: all but that of the lowest integer by minus one have.
def QuotientFits (a b : Int64) : Prop :=
  Integer.lowest ≤ a.toInt / b.toInt ∧ a.toInt / b.toInt ≤ Integer.highest

-- The outcomes of a division, each with what it takes.
inductive Division (a b : Int64) : Option Value → Prop where
  | whole (q : Int64) (nonzero : b ≠ 0) (divides : b.toInt ∣ a.toInt) (fits : QuotientFits a b)
      (product : q.toInt * b.toInt = a.toInt) : Division a b (some (.integer q))
  | fraction (x : Float) (nonzero : b ≠ 0) (rest : ¬b.toInt ∣ a.toInt) : Division a b (some (.float x))
  | zero (isZero : b = 0) : Division a b none
  | beyond (divides : b.toInt ∣ a.toInt) (far : ¬QuotientFits a b) : Division a b none

theorem division (a b : Int64) : Division a b (integers .divide a b) := by
  by_cases isZero : b = 0
  · rw [isZero, divide_zero]
    exact .zero rfl
  by_cases divides : b.toInt ∣ a.toInt
  · rw [divide_whole isZero divides]
    by_cases fits : QuotientFits a b
    · have isWord : Integer.ofInt? (a.toInt / b.toInt) = some _ := if_pos fits
      have same := Slice.ofInt?_eq_some_iff.mp isWord
      rw [isWord]
      refine .whole _ isZero divides fits ?_
      rw [same, Int.ediv_mul_cancel divides]
    · have noWord : Integer.ofInt? (a.toInt / b.toInt) = none := if_neg fits
      rw [noWord]
      exact .beyond divides fits
  · rw [divide_rest isZero divides]
    exact .fraction _ isZero divides

-- Each outcome excludes the others.
theorem Division.outcome {quotient : Option Value} (division : Division a b quotient) :
    (∀ q, quotient = some (.integer q) → q.toInt * b.toInt = a.toInt) ∧
    ((∃ q, quotient = some (.integer q)) ↔ b ≠ 0 ∧ b.toInt ∣ a.toInt ∧ QuotientFits a b) ∧
    ((∃ x, quotient = some (.float x)) ↔ b ≠ 0 ∧ ¬b.toInt ∣ a.toInt) ∧
    (quotient = none ↔ b = 0 ∨ b.toInt ∣ a.toInt ∧ ¬QuotientFits a b) := by
  cases division with
  | whole q nonzero divides fits product => simp [nonzero, divides, fits, product]
  | fraction x nonzero rest => simp [nonzero, rest]
  | zero isZero => simp [isZero]
  | beyond divides far => simp [divides, far]

end Arithmetic

-- Arithmetic of integers never wraps. A tree of sums and products gives the whole number that it comes to, as its
-- one match, if all its subtrees have 64 bits, and nothing otherwise. A quotient is an integer if it comes out and
-- has 64 bits, and a double if it does not come out.
theorem Arithmetic.integers_exact :
    (∀ (labels : Option String) (m : Match) (operator : RingOperator) (left right : IntegerTree),
      let tree := IntegerTree.binary operator left right
      let node := Path.arithmetic operator.operator left.operand right.operand
      ((∀ s ∈ tree.subtrees, s.Fits) → ∃ n : Int64, n.toInt = tree.value ∧
        node.matchesFrom labels m = [m.select node (.integer n)]) ∧
      ((∃ s ∈ tree.subtrees, ¬s.Fits) → node.matchesFrom labels m = [])) ∧
    ∀ a b : Int64,
      let quotient := integers .divide a b
      (∀ q, quotient = some (.integer q) → q.toInt * b.toInt = a.toInt) ∧
      ((∃ q, quotient = some (.integer q)) ↔ b ≠ 0 ∧ b.toInt ∣ a.toInt ∧ QuotientFits a b) ∧
      ((∃ x, quotient = some (.float x)) ↔ b ≠ 0 ∧ ¬b.toInt ∣ a.toInt) ∧
      (quotient = none ↔ b = 0 ∨ b.toInt ∣ a.toInt ∧ ¬QuotientFits a b) := by
  refine ⟨fun labels m operator left right => ?_, fun a b => (division a b).outcome⟩
  intro tree node
  have found : node.matchesFrom labels m = (tree.result?.map fun n => m.select node (.integer n)).toList :=
    IntegerTree.matchesFrom_eq_result
  rw [found]
  constructor
  · intro fits
    obtain ⟨n, same⟩ := IntegerTree.fits_iff.mp (fits tree IntegerTree.mem_subtrees_self)
    refine ⟨n, same, ?_⟩
    rw [IntegerTree.result?_eq_some_iff.mpr ⟨fits, same⟩]
    rfl
  · rintro ⟨s, inside, far⟩
    cases result : tree.result? with
    | none => rfl
    | some n => exact absurd ((IntegerTree.result?_eq_some_iff.mp result).1 s inside) far

-- A product that would be zero, of a sum that is too high; and the one quotient that is too high.
theorem Arithmetic.integers_exact_beyond :
    let sum := IntegerTree.binary .add (.literal Int64.maxValue) (.literal 1)
    let product := IntegerTree.binary .multiply sum (.literal 0)
    product.value = 0 ∧ sum ∈ product.subtrees ∧ ¬sum.Fits ∧
      (Path.arithmetic .multiply sum.operand (.literal (.integer 0))).matchesFrom none (.start .null) = [] ∧
      (-1 : Int64).toInt ∣ Int64.minValue.toInt ∧ ¬QuotientFits Int64.minValue (-1) ∧
      integers .divide Int64.minValue (-1) = none := by
  intro sum product
  have inside : sum ∈ product.subtrees := by simp [product, IntegerTree.subtrees, IntegerTree.mem_subtrees_self]
  have far : ¬sum.Fits := by
    unfold IntegerTree.Fits
    decide
  have divides : (-1 : Int64).toInt ∣ Int64.minValue.toInt := by decide
  have beyond : ¬QuotientFits Int64.minValue (-1) := by
    unfold QuotientFits
    decide
  obtain ⟨trees, quotients⟩ := integers_exact
  have empty := (trees none (.start .null) .multiply sum (.literal 0)).2 ⟨sum, inside, far⟩
  have none := (quotients Int64.minValue (-1)).2.2.2.mpr (.inr ⟨divides, beyond⟩)
  exact ⟨rfl, inside, far, empty, divides, beyond, none⟩

end TreePath
