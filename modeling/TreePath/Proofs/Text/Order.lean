import Mathlib.Data.Int.Order.Basic
import Mathlib.Data.String.Basic
import Mathlib.Order.Compare
import TreePath.Text.Order
namespace TreePath

theorem compareInt_compares (a b : Int) : (compareInt a b).Compares a b := by
  unfold compareInt
  split
  · assumption
  · split
    · assumption
    · rename_i notLess unequal
      exact lt_of_le_of_ne (not_lt.mp notLess) (Ne.symm unequal)

-- The first difference decides; a text comes after its proper beginnings.
theorem compareChars_compares (as bs : List Char) : (compareChars as bs).Compares as bs := by
  induction as generalizing bs with
  | nil =>
    cases bs with
    | nil => rfl
    | cons b bs => exact List.nil_lt_cons b bs
  | cons a as ih =>
    cases bs with
    | nil => exact List.nil_lt_cons a as
    | cons b bs =>
      unfold compareChars
      split
      · rename_i less
        exact List.cons_lt_cons_iff.mpr (.inl less)
      · split
        · rename_i same
          obtain rfl := Char.toNat_inj.mp same
          have rest := ih bs
          generalize compareChars as bs = first at rest
          cases first with
          | lt | gt => exact List.cons_lt_cons_iff.mpr (.inr ⟨rfl, rest⟩)
          | eq => exact congrArg (List.cons a) rest
        · rename_i notLess unequal
          have more : b.toNat < a.toNat := lt_of_le_of_ne (not_lt.mp notLess) (Ne.symm unequal)
          exact List.cons_lt_cons_iff.mpr (.inl more)

theorem compareText_compares (s t : String) : (compareText s t).Compares s t := by
  have chars := compareChars_compares s.toList t.toList
  unfold compareText
  generalize compareChars s.toList t.toList = first at chars
  cases first with
  | lt | gt => exact chars
  | eq => exact String.toList_inj.mp chars

theorem compareBool_compares (a b : Bool) : (compareBool a b).Compares a b := by
  cases a with
  | false =>
    cases b with
    | false => rfl
    | true => exact Bool.false_lt_true
  | true =>
    cases b with
    | false => exact Bool.false_lt_true
    | true => rfl

end TreePath
