import Mathlib.Data.List.Induction
import Mathlib.Data.List.Perm.Basic
import TreePath.Sorting.Insertion
namespace TreePath.Sorting

-- Elements that are compared without contradiction: what is not less than the one is not less than what that is not
-- less than. Elements that are equal need not be the same.
structure Weak {α : Type} (order : α → α → Ordering) (elements : List α) : Prop where
  asymm : ∀ a ∈ elements, ∀ b ∈ elements, order a b = .lt → order b a ≠ .lt
  trans : ∀ a ∈ elements, ∀ b ∈ elements, ∀ c ∈ elements, order a b ≠ .lt → order b c ≠ .lt → order a c ≠ .lt

def InOrder {α : Type} (order : α → α → Ordering) (elements : List α) : Prop :=
  elements.Pairwise fun a b => order b a ≠ .lt

variable {α : Type} {order : α → α → Ordering} {x y : α} {held rest elements xs ys zs : List α}

namespace Weak

theorem mono (weak : Weak order ys) (inside : ∀ x ∈ xs, x ∈ ys) : Weak order xs where
  asymm a first b second := weak.asymm a (inside a first) b (inside b second)
  trans a first b second c third := weak.trans a (inside a first) b (inside b second) c (inside c third)

theorem perm (weak : Weak order ys) (perm : xs.Perm ys) : Weak order xs :=
  weak.mono fun _ => perm.mem_iff.mp

theorem left (weak : Weak order (xs ++ ys)) : Weak order xs := weak.mono fun _ => List.mem_append_left ys

theorem right (weak : Weak order (xs ++ ys)) : Weak order ys := weak.mono fun _ => List.mem_append_right xs

theorem lt_of_lt_of_le {a b c : α} (weak : Weak order elements) (isFirst : a ∈ elements) (isSecond : b ∈ elements)
    (isThird : c ∈ elements) (less : order a b = .lt) (notLess : order c b ≠ .lt) : order a c = .lt :=
  by_contra fun notBefore => weak.trans a isFirst c isThird b isSecond notBefore notLess less

theorem lt_of_le_of_lt {a b c : α} (weak : Weak order elements) (isFirst : a ∈ elements) (isSecond : b ∈ elements)
    (isThird : c ∈ elements) (notLess : order b a ≠ .lt) (less : order b c = .lt) : order a c = .lt :=
  by_contra fun notBefore => weak.trans b isSecond a isFirst c isThird notLess notBefore less

end Weak

-- Nothing is lost, and nothing is added.
theorem insertFromEnd_perm : (insertFromEnd order x held).Perm (x :: held) := by
  induction held with
  | nil => exact .refl _
  | cons y before ih =>
    unfold insertFromEnd
    split
    · exact (ih.cons y).trans (.swap x y before)
    · exact .refl _

theorem insertAll_perm : (insertAll order held elements).Perm (elements ++ held) := by
  have inserted : ∀ later : List α,
      (elements.foldl (fun held x => insertFromEnd order x held) later).Perm (elements ++ later) := by
    induction elements with
    | nil => exact fun later => .refl _
    | cons x rest ih =>
      intro later
      refine (ih _).trans ?_
      exact (insertFromEnd_perm.append_left rest).trans List.perm_middle
  refine (List.reverse_perm _).trans ((inserted _).trans ?_)
  exact (List.reverse_perm held).append_left elements

theorem sort_perm : (sort order elements).Perm elements := by
  have inserted : (insertAll order [] elements).Perm (elements ++ []) := insertAll_perm
  rwa [List.append_nil] at inserted

theorem insertFromEnd_stops (stops : ∀ z ∈ held, order x z ≠ .lt) : insertFromEnd order x held = x :: held := by
  cases held with
  | nil => rfl
  | cons y before => exact if_neg (stops y List.mem_cons_self)

theorem insertFromEnd_passes (passes : ∀ z ∈ held, order x z = .lt) :
    insertFromEnd order x (held ++ rest) = held ++ insertFromEnd order x rest := by
  induction held with
  | nil => rfl
  | cons y before ih =>
    rw [List.cons_append, insertFromEnd, if_pos (passes y List.mem_cons_self)]
    exact congrArg (y :: ·) (ih fun z listed => passes z (List.mem_cons_of_mem y listed))

theorem insertFromEnd_within (stops : ∀ z ∈ rest, order x z ≠ .lt) :
    insertFromEnd order x (held ++ rest) = insertFromEnd order x held ++ rest := by
  induction held with
  | nil => exact insertFromEnd_stops stops
  | cons y before ih =>
    rw [List.cons_append, insertFromEnd, insertFromEnd]
    split
    · exact congrArg (y :: ·) ih
    · rfl

-- The place of an element: it has passed what it is less than, and nothing else.
theorem insertFromEnd_place (order : α → α → Ordering) (x : α) (held : List α) : ∃ passed left,
    held = passed ++ left ∧ insertFromEnd order x held = passed ++ x :: left ∧ ∀ z ∈ passed, order x z = .lt := by
  induction held with
  | nil => exact ⟨[], [], rfl, rfl, nofun⟩
  | cons y before ih =>
    unfold insertFromEnd
    split
    · rename_i less
      obtain ⟨passed, left, same, placed, all⟩ := ih
      exact ⟨y :: passed, left, congrArg (y :: ·) same, congrArg (y :: ·) placed, List.forall_mem_cons.mpr ⟨less, all⟩⟩
    · exact ⟨[], y :: before, rfl, rfl, nofun⟩

-- Two elements that differ may be inserted in either order.
theorem insertFromEnd_comm (weak : Weak order (y :: x :: held)) (less : order y x = .lt) :
    insertFromEnd order y (insertFromEnd order x held) = insertFromEnd order x (insertFromEnd order y held) := by
  have isFirst : y ∈ y :: x :: held := List.mem_cons_self
  have isSecond : x ∈ y :: x :: held := List.mem_cons_of_mem y List.mem_cons_self
  have notLess : order x y ≠ .lt := weak.asymm y isFirst x isSecond less
  induction held with
  | nil =>
    have passes : insertFromEnd order y [x] = [x, y] := if_pos less
    have stops : insertFromEnd order x [y] = [x, y] := if_neg notLess
    exact passes.trans stops.symm
  | cons z before ih =>
    have isThird : z ∈ y :: x :: z :: before := List.mem_cons_of_mem y (List.mem_cons_of_mem x List.mem_cons_self)
    have inside : ∀ w ∈ y :: x :: before, w ∈ y :: x :: z :: before := by
      simp only [List.mem_cons]
      tauto
    by_cases below : order x z = .lt
    · have belowToo : order y z = .lt := by
        refine weak.lt_of_lt_of_le isFirst isSecond isThird less ?_
        exact weak.asymm x isSecond z isThird below
      rw [insertFromEnd, if_pos below, insertFromEnd, if_pos belowToo, insertFromEnd, if_pos belowToo, insertFromEnd,
        if_pos below, ih (weak.mono inside) List.mem_cons_self (List.mem_cons_of_mem y List.mem_cons_self)]
    · rw [insertFromEnd, if_neg below, insertFromEnd, if_pos less]
      by_cases belowToo : order y z = .lt
      · rw [insertFromEnd, if_pos belowToo, insertFromEnd, if_neg below]
      · rw [insertFromEnd, if_neg belowToo, insertFromEnd, if_neg notLess]

theorem insertAll_nil : insertAll order xs [] = xs := List.reverse_reverse xs

theorem insertAll_one : insertAll order xs [y] = (insertFromEnd order y xs.reverse).reverse := rfl

theorem insertAll_append : insertAll order xs (ys ++ zs) = insertAll order (insertAll order xs ys) zs := by
  unfold insertAll
  rw [List.foldl_append, List.reverse_reverse]

theorem insertAll_cons : insertAll order xs (y :: ys) = insertAll order (insertAll order xs [y]) ys := by
  rw [← insertAll_append, List.singleton_append]

theorem sort_append : sort order (xs ++ ys) = insertAll order (sort order xs) ys := insertAll_append

-- What comes in front of all that is inserted, or behind it, is not touched.
theorem insertAll_behind (behind : ∀ y ∈ ys, ∀ z ∈ zs, order y z ≠ .lt) :
    insertAll order (zs ++ xs) ys = zs ++ insertAll order xs ys := by
  induction ys generalizing xs with
  | nil => rw [insertAll_nil, insertAll_nil]
  | cons y ys ih =>
    have stops : ∀ z ∈ zs.reverse, order y z ≠ .lt := fun z listed =>
      behind y List.mem_cons_self z (List.mem_reverse.mp listed)
    have first : insertAll order (zs ++ xs) [y] = zs ++ insertAll order xs [y] := by
      rw [insertAll_one, insertAll_one, List.reverse_append, insertFromEnd_within stops, List.reverse_append,
        List.reverse_reverse]
    rw [insertAll_cons, first, ih fun y' listed => behind y' (List.mem_cons_of_mem y listed), ← insertAll_cons]

theorem insertAll_before (before : ∀ y ∈ ys, ∀ z ∈ zs, order y z = .lt) :
    insertAll order (xs ++ zs) ys = insertAll order xs ys ++ zs := by
  induction ys generalizing xs with
  | nil => rw [insertAll_nil, insertAll_nil]
  | cons y ys ih =>
    have passes : ∀ z ∈ zs.reverse, order y z = .lt := fun z listed =>
      before y List.mem_cons_self z (List.mem_reverse.mp listed)
    have first : insertAll order (xs ++ zs) [y] = insertAll order xs [y] ++ zs := by
      rw [insertAll_one, insertAll_one, List.reverse_append, insertFromEnd_passes passes, List.reverse_append,
        List.reverse_reverse]
    rw [insertAll_cons, first, ih fun y' listed => before y' (List.mem_cons_of_mem y listed), ← insertAll_cons]

theorem insertAll_first (least : ∀ x ∈ xs, order y x = .lt) :
    insertAll order xs (y :: ys) = insertAll order (y :: xs) ys := by
  have inserted : insertAll order ([] ++ xs) [y] = insertAll order [] [y] ++ xs :=
    insertAll_before fun y' isOnly x listed => List.mem_singleton.mp isOnly ▸ least x listed
  rw [insertAll_cons, ← List.nil_append xs, inserted]
  rfl

theorem insertAll_last (greatest : ∀ z ∈ ys ++ xs, order y z ≠ .lt) :
    insertAll order xs (ys ++ [y]) = insertAll order xs ys ++ [y] := by
  have stops : ∀ z ∈ (insertAll order xs ys).reverse, order y z ≠ .lt := fun z listed =>
    greatest z (insertAll_perm.mem_iff.mp (List.mem_reverse.mp listed))
  rw [insertAll_append, insertAll_one, insertFromEnd_stops stops, List.reverse_cons, List.reverse_reverse]

-- What is in order already stays as it is.
theorem insertAll_inOrder (inOrder : InOrder order (xs ++ ys)) : insertAll order xs ys = xs ++ ys := by
  induction ys generalizing xs with
  | nil => rw [insertAll_nil, List.append_nil]
  | cons y ys ih =>
    obtain ⟨_, _, apart⟩ := List.pairwise_append.mp inOrder
    have greatest : ∀ z ∈ [] ++ xs, order y z ≠ .lt := fun z listed => apart z listed y List.mem_cons_self
    have placed : insertAll order xs [y] = xs ++ [y] := (insertAll_last greatest).trans (by rw [insertAll_nil])
    have split : xs ++ y :: ys = xs ++ [y] ++ ys := by rw [List.append_assoc, List.singleton_append]
    rw [split] at inOrder ⊢
    rw [insertAll_cons, placed, ih inOrder]

theorem sort_inOrder (inOrder : InOrder order xs) : sort order xs = xs := insertAll_inOrder inOrder

-- What goes down strictly is turned round.
theorem sort_down (down : xs.Pairwise fun a b => order b a = .lt) : sort order xs = xs.reverse := by
  have inserted : ∀ held : List α, (∀ x ∈ xs, ∀ z ∈ held, order x z = .lt) →
      insertAll order held xs = xs.reverse ++ held := by
    induction xs with
    | nil => exact fun held _ => insertAll_nil
    | cons x xs ih =>
      obtain ⟨first, later⟩ := List.pairwise_cons.mp down
      intro held below
      have onward : ∀ x' ∈ xs, ∀ z ∈ x :: held, order x' z = .lt := fun x' listed =>
        List.forall_mem_cons.mpr ⟨first x' listed, below x' (List.mem_cons_of_mem x listed)⟩
      rw [insertAll_first (below x List.mem_cons_self), ih later (x :: held) onward, List.reverse_cons,
        List.append_assoc, List.singleton_append]
  have all := inserted [] fun _ _ => nofun
  rwa [List.append_nil] at all

theorem insertAll_comm (weak : Weak order (y :: zs ++ xs)) (less : ∀ z ∈ zs, order y z = .lt) :
    insertAll order (insertAll order xs [y]) zs = insertAll order (insertAll order xs zs) [y] := by
  induction zs generalizing xs with
  | nil => rw [insertAll_nil, insertAll_nil]
  | cons z zs ih =>
    have inserted : (insertAll order xs [z]).Perm (z :: xs) := insertAll_perm
    have swapped : insertAll order (insertAll order xs [y]) [z] = insertAll order (insertAll order xs [z]) [y] := by
      have here : Weak order (y :: z :: xs.reverse) := weak.mono fun w listed => by
        simp only [List.mem_cons, List.mem_reverse, List.mem_append] at listed ⊢
        tauto
      rw [insertAll_one, insertAll_one, insertAll_one, insertAll_one, List.reverse_reverse, List.reverse_reverse,
        insertFromEnd_comm here (less z List.mem_cons_self)]
    have onward : Weak order (y :: zs ++ insertAll order xs [z]) := weak.mono fun w listed => by
      rw [List.mem_append, inserted.mem_iff] at listed
      simp only [List.mem_cons, List.mem_append] at listed ⊢
      tauto
    rw [insertAll_cons, swapped, ih onward fun z' listed => less z' (List.mem_cons_of_mem z listed),
      ← insertAll_cons]

-- Induction on the elements from the last one, which in sorted form has passed some that it is less than.
theorem insertAll_sort (weak : Weak order (xs ++ ys)) :
    insertAll order xs (sort order ys) = insertAll order xs ys := by
  induction ys using List.reverseRecOn with
  | nil => rfl
  | append_singleton ys y ih =>
    have earlier : Weak order (xs ++ ys) := weak.mono fun w listed => by
      simp only [List.mem_append] at listed ⊢
      tauto
    obtain ⟨passed, left, held, placed, less⟩ := insertFromEnd_place order y (sort order ys).reverse
    have before : sort order ys = left.reverse ++ passed.reverse := by
      rw [← List.reverse_append, ← held, List.reverse_reverse]
    have after : sort order (ys ++ [y]) = left.reverse ++ (y :: passed.reverse) := by
      rw [sort_append, insertAll_one, placed, List.reverse_append, List.reverse_cons, List.append_assoc,
        List.singleton_append]
    have passedLess : ∀ z ∈ passed.reverse, order y z = .lt := fun z listed => less z (List.mem_reverse.mp listed)
    have here : Weak order (y :: passed.reverse ++ insertAll order xs left.reverse) := weak.mono fun w listed => by
      have sorted : w ∈ ys ↔ w ∈ left.reverse ++ passed.reverse := before ▸ (sort_perm.mem_iff (a := w)).symm
      rw [List.mem_append, insertAll_perm.mem_iff] at listed
      simp only [List.mem_cons, List.mem_append, sorted, List.not_mem_nil, or_false] at listed ⊢
      tauto
    calc insertAll order xs (sort order (ys ++ [y]))
        = insertAll order (insertAll order (insertAll order xs left.reverse) [y]) passed.reverse := by
          rw [after, insertAll_append, insertAll_cons]
      _ = insertAll order (insertAll order xs (sort order ys)) [y] := by
          rw [insertAll_comm here passedLess, before, insertAll_append]
      _ = insertAll order xs (ys ++ [y]) := by rw [ih earlier, insertAll_append]

theorem sort_parts (weak : Weak order (xs ++ ys)) :
    sort order (xs ++ ys) = insertAll order (sort order xs) (sort order ys) := by
  have sorted : Weak order (sort order xs ++ ys) := weak.perm (sort_perm.append_right ys)
  rw [sort_append, insertAll_sort sorted]

-- If all that pass a test are less than what does not, they are sorted on their own.
theorem sort_partition {test : α → Bool} (weak : Weak order xs)
    (apart : ∀ x ∈ xs, ∀ y ∈ xs, test x = true → test y = false → order x y = .lt) :
    sort order xs = sort order (xs.filter test) ++ sort order (xs.filter fun x => !test x) := by
  induction xs using List.reverseRecOn with
  | nil => rfl
  | append_singleton xs x ih =>
    have earlier := ih weak.left fun a first b second =>
      apart a (List.mem_append_left _ first) b (List.mem_append_left _ second)
    have isLast : x ∈ xs ++ [x] := List.mem_append_right xs (List.mem_singleton_self x)
    have isEarlier : ∀ {p : α → Bool} {z : α}, z ∈ sort order (xs.filter p) → z ∈ xs ++ [x] ∧ p z = true := by
      intro p z listed
      obtain ⟨inside, passes⟩ := List.mem_filter.mp (sort_perm.mem_iff.mp listed)
      exact ⟨List.mem_append_left _ inside, passes⟩
    rw [sort_append, earlier, List.filter_append, List.filter_append]
    cases passes : test x with
    | true =>
      have before : ∀ y ∈ [x], ∀ z ∈ sort order (xs.filter fun x => !test x), order y z = .lt := by
        intro y isOnly z listed
        obtain ⟨inside, fails⟩ := isEarlier listed
        obtain rfl := List.mem_singleton.mp isOnly
        exact apart _ isLast z inside passes (by simpa using fails)
      rw [insertAll_before before]
      simp [passes, sort_append]
    | false =>
      have behind : ∀ y ∈ [x], ∀ z ∈ sort order (xs.filter test), order y z ≠ .lt := by
        intro y isOnly z listed
        obtain ⟨inside, passesToo⟩ := isEarlier listed
        obtain rfl := List.mem_singleton.mp isOnly
        exact weak.asymm z inside _ isLast (apart z inside _ isLast passesToo passes)
      rw [insertAll_behind behind]
      simp [passes, sort_append]

-- What may come before what once elements are sorted, if `earlier` is the order they were given in.
def Precedes (order : α → α → Ordering) (earlier : α → α → Prop) (a b : α) : Prop :=
  order a b = .lt ∨ order b a ≠ .lt ∧ earlier a b

-- Elements are held last first. An element passes those it is less than, and all of them were given
-- before it; where it stops, neither the next one nor what is before that is greater.
theorem insertFromEnd_stable {earlier : α → α → Prop} (weak : Weak order (x :: held))
    (given : ∀ y ∈ held, earlier y x) (inOrder : held.Pairwise fun b a => Precedes order earlier a b) :
    (insertFromEnd order x held).Pairwise fun b a => Precedes order earlier a b := by
  induction held with
  | nil => exact List.pairwise_singleton _ _
  | cons y before ih =>
    obtain ⟨first, rest⟩ := List.pairwise_cons.mp inOrder
    have beforeGiven : ∀ z ∈ before, earlier z x := fun z old => given z (List.mem_cons_of_mem y old)
    unfold insertFromEnd
    split
    · rename_i less
      have onward : Weak order (x :: before) := weak.mono fun w listed => by
        simp only [List.mem_cons] at listed ⊢
        tauto
      refine List.pairwise_cons.mpr ⟨?_, ih onward beforeGiven rest⟩
      intro z present
      rcases List.mem_cons.mp (insertFromEnd_perm.mem_iff.mp present) with rfl | old
      · exact .inl less
      · exact first z old
    · rename_i notLess
      have isHeld : y ∈ x :: y :: before := List.mem_cons_of_mem x List.mem_cons_self
      refine List.pairwise_cons.mpr ⟨?_, inOrder⟩
      intro z present
      refine .inr ⟨?_, given z present⟩
      have isOld : z ∈ x :: y :: before := List.mem_cons_of_mem x present
      rcases List.mem_cons.mp present with rfl | old
      · exact notLess
      · rcases first z old with less | ⟨notGreater, _⟩
        · exact weak.trans _ List.mem_cons_self _ isHeld _ isOld notLess (weak.asymm _ isOld _ isHeld less)
        · exact weak.trans _ List.mem_cons_self _ isHeld _ isOld notLess notGreater

-- Equal elements keep their order.
theorem sort_stable {earlier : α → α → Prop} (weak : Weak order elements) (given : elements.Pairwise earlier) :
    (sort order elements).Pairwise (Precedes order earlier) := by
  have inserted : ∀ held : List α, Weak order (held ++ elements) →
      held.Pairwise (fun b a => Precedes order earlier a b) → (∀ y ∈ held, ∀ x ∈ elements, earlier y x) →
      (elements.foldl (fun held x => insertFromEnd order x held) held).Pairwise
        (fun b a => Precedes order earlier a b) := by
    clear weak
    induction elements with
    | nil => exact fun held _ inOrder _ => inOrder
    | cons x rest ih =>
      intro held weak inOrder before
      obtain ⟨first, later⟩ := List.pairwise_cons.mp given
      have moved : (insertFromEnd order x held ++ rest).Perm (held ++ x :: rest) :=
        (insertFromEnd_perm.append_right rest).trans List.perm_middle.symm
      have here : Weak order (x :: held) := weak.mono fun w listed => by
        simp only [List.mem_cons, List.mem_append] at listed ⊢
        tauto
      have stable := insertFromEnd_stable here (fun y old => before y old x List.mem_cons_self) inOrder
      refine ih later _ (weak.perm moved) stable fun y present z behind => ?_
      rcases List.mem_cons.mp (insertFromEnd_perm.mem_iff.mp present) with rfl | old
      · exact first z behind
      · exact before y old z (List.mem_cons_of_mem x behind)
  exact List.pairwise_reverse.mpr (inserted [] weak .nil nofun)

theorem sort_pairwise (weak : Weak order elements) : InOrder order (sort order elements) := by
  have given : elements.Pairwise fun _ _ => True := List.pairwise_of_forall fun _ _ => trivial
  have isSorted : ∀ {z : α}, z ∈ sort order elements → z ∈ elements := sort_perm.mem_iff.mp
  refine (sort_stable weak given).imp_of_mem ?_
  rintro a b isFirst isSecond (less | ⟨notLess, _⟩)
  · exact weak.asymm a (isSorted isFirst) b (isSorted isSecond) less
  · exact notLess

variable {β : Type} {f : β → α}

theorem insertFromEnd_map {y : β} {held : List β} : insertFromEnd order (f y) (held.map f) =
    (insertFromEnd (fun a b => order (f a) (f b)) y held).map f := by
  induction held with
  | nil => rfl
  | cons z before ih =>
    rw [List.map_cons, insertFromEnd, insertFromEnd]
    split
    · rw [ih]
      rfl
    · rfl

-- Sorting goes by the order alone.
theorem sort_map {elements : List β} : sort order (elements.map f) =
    (sort (fun a b => order (f a) (f b)) elements).map f := by
  have inserted : ∀ held : List β,
      (elements.map f).foldl (fun held x => insertFromEnd order x held) (held.map f) =
        (elements.foldl (fun held y => insertFromEnd (fun a b => order (f a) (f b)) y held) held).map f := by
    induction elements with
    | nil => exact fun held => rfl
    | cons y rest ih =>
      intro held
      rw [List.map_cons, List.foldl_cons, List.foldl_cons, insertFromEnd_map]
      exact ih _
  unfold sort insertAll
  rw [List.map_reverse]
  exact congrArg List.reverse (inserted [])

end TreePath.Sorting
