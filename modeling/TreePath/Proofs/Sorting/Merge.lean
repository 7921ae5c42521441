import TreePath.Proofs.Sorting.Insertion
import TreePath.Sorting.Merge
namespace TreePath.Sorting

variable {α : Type} {order : α → α → Ordering} {goesFirst : α → α → Bool} {x y : α}
  {count first second firstBehind secondBehind : Nat} {xs ys elements : List α} {parts : List α × List α × List α}

-- What is taken off two lists, and what is left of them: `first` elements of the one and `second` of the other. So
-- many are taken as are asked for if neither list is shorter.
structure Taken (count : Nat) (xs ys : List α) (parts : List α × List α × List α) (first second : Nat) : Prop where
  inFirst : first ≤ xs.length
  inSecond : second ≤ ys.length
  asked : count ≤ xs.length → count ≤ ys.length → first + second = count
  taken : parts.1.Perm (xs.take first ++ ys.take second)
  firstRest : parts.2.1 = xs.drop first
  secondRest : parts.2.2 = ys.drop second

-- The same from the ends.
structure TakenBehind (count : Nat) (xs ys : List α) (parts : List α × List α × List α) (first second : Nat) :
    Prop where
  inFirst : first ≤ xs.length
  inSecond : second ≤ ys.length
  asked : count ≤ xs.length → count ≤ ys.length → first + second + count = xs.length + ys.length
  taken : parts.1.Perm (xs.drop first ++ ys.drop second)
  firstRest : parts.2.1 = xs.take first
  secondRest : parts.2.2 = ys.take second

-- Where an element of the second list goes before one of the first, it goes before all that follow; where it does
-- not, neither does any that follows.
structure Steady (goesFirst : α → α → Bool) (xs ys : List α) : Prop where
  onFirst : xs.Pairwise fun x x' => ∀ y ∈ ys, goesFirst y x = true → goesFirst y x' = true
  onSecond : ys.Pairwise fun y y' => ∀ x ∈ xs, goesFirst y x = false → goesFirst y' x = false

-- What is taken of either list goes before what is left of the other.
structure Apart (goesFirst : α → α → Bool) (xs ys : List α) (first second : Nat) : Prop where
  firstTaken : ∀ x ∈ xs.take first, ∀ y ∈ ys.drop second, goesFirst y x = false
  secondTaken : ∀ y ∈ ys.take second, ∀ x ∈ xs.drop first, goesFirst y x = true

structure ApartBehind (order : α → α → Ordering) (xs ys : List α) (first second : Nat) : Prop where
  firstTaken : ∀ x ∈ xs.drop first, ∀ y ∈ ys.take second, isLess order y x = true
  secondTaken : ∀ y ∈ ys.drop second, ∀ x ∈ xs.take first, isLess order y x = false

theorem taken_none (short : count ≤ xs.length → count ≤ ys.length → count = 0) :
    Taken count xs ys ([], xs, ys) 0 0 where
  inFirst := Nat.zero_le _
  inSecond := Nat.zero_le _
  asked enough enoughToo := (short enough enoughToo).symm
  taken := .refl _
  firstRest := rfl
  secondRest := rfl

theorem apart_none : Apart goesFirst xs ys 0 0 where
  firstTaken := nofun
  secondTaken := nofun

-- The recursion is on the number asked for; each step takes the head of one list.
theorem takeMerged_taken (goesFirst : α → α → Bool) (count : Nat) (xs ys : List α) :
    ∃ first second, Taken count xs ys (takeMerged goesFirst count xs ys) first second ∧
      (Steady goesFirst xs ys → Apart goesFirst xs ys first second) := by
  induction count generalizing xs ys with
  | zero => exact ⟨0, 0, taken_none fun _ _ => rfl, fun _ => apart_none⟩
  | succ count ih =>
    match xs, ys with
    | [], ys => exact ⟨0, 0, taken_none fun none _ => absurd none (Nat.not_succ_le_zero _), fun _ => apart_none⟩
    | x :: xs, [] => exact ⟨0, 0, taken_none fun _ none => absurd none (Nat.not_succ_le_zero _), fun _ => apart_none⟩
    | x :: xs, y :: ys =>
      unfold takeMerged
      split
      · rename_i here
        obtain ⟨first, second, parts, apart⟩ := ih (x :: xs) ys
        refine ⟨first, second + 1, ⟨parts.inFirst, Nat.succ_le_succ parts.inSecond, ?_, ?_, parts.firstRest,
          parts.secondRest⟩, fun steady => ?_⟩
        · intro enough enoughToo
          have asked := parts.asked (Nat.le_of_succ_le enough) (Nat.le_of_succ_le_succ enoughToo)
          omega
        · exact (parts.taken.cons y).trans List.perm_middle.symm
        · have onFirst : (x :: xs).Pairwise fun x x' => ∀ y' ∈ ys, goesFirst y' x = true → goesFirst y' x' = true :=
            steady.onFirst.imp fun law y' listed => law y' (List.mem_cons_of_mem y listed)
          have later := apart ⟨onFirst, (List.pairwise_cons.mp steady.onSecond).2⟩
          refine ⟨later.firstTaken, List.forall_mem_cons.mpr ⟨fun x' left => ?_, later.secondTaken⟩⟩
          rcases List.mem_cons.mp (List.mem_of_mem_drop left) with rfl | behind
          · exact here
          · exact (List.pairwise_cons.mp steady.onFirst).1 x' behind y List.mem_cons_self here
      · rename_i notHere
        have here : goesFirst y x = false := Bool.eq_false_iff.mpr notHere
        obtain ⟨first, second, parts, apart⟩ := ih xs (y :: ys)
        refine ⟨first + 1, second, ⟨Nat.succ_le_succ parts.inFirst, parts.inSecond, ?_, parts.taken.cons x,
          parts.firstRest, parts.secondRest⟩, fun steady => ?_⟩
        · intro enough enoughToo
          have asked := parts.asked (Nat.le_of_succ_le_succ enough) (Nat.le_of_succ_le enoughToo)
          omega
        · have onSecond : (y :: ys).Pairwise fun y y' => ∀ x' ∈ xs, goesFirst y x' = false → goesFirst y' x' = false :=
            steady.onSecond.imp fun law x' listed => law x' (List.mem_cons_of_mem x listed)
          have later := apart ⟨(List.pairwise_cons.mp steady.onFirst).2, onSecond⟩
          refine ⟨List.forall_mem_cons.mpr ⟨fun y' left => ?_, later.firstTaken⟩, later.secondTaken⟩
          rcases List.mem_cons.mp (List.mem_of_mem_drop left) with rfl | behind
          · exact here
          · exact (List.pairwise_cons.mp steady.onSecond).1 y' behind x List.mem_cons_self here

theorem exchange_perm (a b c d : List α) : (a ++ b ++ (c ++ d)).Perm (a ++ c ++ (b ++ d)) := by
  rw [List.append_assoc, List.append_assoc]
  exact (List.perm_append_comm_assoc b c d).append_left a

theorem Taken.perm (taken : Taken count xs ys parts first second) :
    (parts.1 ++ parts.2.1 ++ parts.2.2).Perm (xs ++ ys) := by
  have restored : (xs.take first ++ ys.take second ++ (xs.drop first ++ ys.drop second)).Perm (xs ++ ys) := by
    refine (exchange_perm _ _ _ _).trans ?_
    rw [List.take_append_drop, List.take_append_drop]
  rw [taken.firstRest, taken.secondRest, List.append_assoc]
  exact (taken.taken.append_right _).trans restored

theorem TakenBehind.perm (taken : TakenBehind count xs ys parts first second) :
    (parts.2.1 ++ parts.2.2 ++ parts.1.reverse).Perm (xs ++ ys) := by
  have reversed := (List.reverse_perm parts.1).trans taken.taken
  rw [taken.firstRest, taken.secondRest]
  refine (reversed.append_left _).trans ((exchange_perm _ _ _ _).trans ?_)
  rw [List.take_append_drop, List.take_append_drop]

-- Taking from the ends is taking off the reversed lists, the second of which comes first.
theorem takeGreatest_taken (order : α → α → Ordering) (count : Nat) (xs ys : List α) :
    ∃ first second, TakenBehind count xs ys (takeGreatest order count xs ys) first second ∧
      (Steady (fun x y => isLess order y x) ys.reverse xs.reverse → ApartBehind order xs ys first second) := by
  obtain ⟨ofSecond, ofFirst, parts, apart⟩ :=
    takeMerged_taken (fun x y => isLess order y x) count ys.reverse xs.reverse
  have inFirst : ofFirst ≤ xs.length := Nat.le_trans parts.inSecond (Nat.le_of_eq List.length_reverse)
  have inSecond : ofSecond ≤ ys.length := Nat.le_trans parts.inFirst (Nat.le_of_eq List.length_reverse)
  refine ⟨xs.length - ofFirst, ys.length - ofSecond, ⟨Nat.sub_le _ _, Nat.sub_le _ _, ?_, ?_, ?_, ?_⟩, ?_⟩
  · intro enough enoughToo
    have asked := parts.asked (by rwa [List.length_reverse]) (by rwa [List.length_reverse])
    omega
  · have taken := parts.taken
    rw [List.take_reverse, List.take_reverse] at taken
    exact taken.trans (((List.reverse_perm _).append (List.reverse_perm _)).trans List.perm_append_comm)
  · refine (congrArg List.reverse parts.secondRest).trans ?_
    rw [List.drop_reverse, List.reverse_reverse]
  · refine (congrArg List.reverse parts.firstRest).trans ?_
    rw [List.drop_reverse, List.reverse_reverse]
  · intro steady
    obtain ⟨firstTaken, secondTaken⟩ := apart steady
    rw [List.take_reverse, List.drop_reverse] at firstTaken secondTaken
    constructor
    · exact fun x isTaken y isLeft => secondTaken x (List.mem_reverse.mpr isTaken) y (List.mem_reverse.mpr isLeft)
    · exact fun y isTaken x isLeft => firstTaken y (List.mem_reverse.mpr isTaken) x (List.mem_reverse.mpr isLeft)

-- Whatever the order, a merge loses nothing and adds nothing.
theorem merge_perm : (merge order xs ys).Perm (xs ++ ys) := by
  unfold merge
  dsimp only
  split
  · obtain ⟨_, _, parts, _⟩ := takeMerged_taken (isLess order) (xs.length + ys.length) xs ys
    exact parts.perm
  · obtain ⟨_, _, parts, _⟩ := takeGreatest_taken order (xs.length + ys.length) xs ys
    exact parts.perm

-- What both ends have taken, with what stands between them.
theorem ends_perm {least greatest : List α} {firstSpare secondSpare : Nat}
    (atStart : least.Perm (xs.take first ++ ys.take second))
    (atEnd : greatest.Perm (xs.drop (first + firstSpare) ++ ys.drop (second + secondSpare))) :
    (least ++ ((xs.drop first).take firstSpare ++ (ys.drop second).take secondSpare) ++ greatest.reverse).Perm
      (xs ++ ys) := by
  refine ((atStart.append_right _).append ((List.reverse_perm greatest).trans atEnd)).trans ?_
  refine ((exchange_perm _ _ _ _).append_right _).trans ?_
  rw [← List.take_add, ← List.take_add]
  refine (exchange_perm _ _ _ _).trans ?_
  rw [List.take_append_drop, List.take_append_drop]

-- The two ends meet if they leave nothing of the first half, and the spare elements of the second stand between them,
-- or the other way round.
theorem mergeFromEnds_eq
    (least : Taken xs.length xs ys (takeLeast order xs.length xs ys) first second)
    (greatest : TakenBehind xs.length xs ys (takeGreatest order xs.length xs ys) firstBehind secondBehind) :
    mergeFromEnds order xs ys =
      if firstBehind = first then
        some ((takeLeast order xs.length xs ys).1 ++ (ys.drop second).take (ys.length - xs.length) ++
          (takeGreatest order xs.length xs ys).1.reverse)
      else if firstBehind = first + (ys.length - xs.length) then
        some ((takeLeast order xs.length xs ys).1 ++ (xs.drop first).take (ys.length - xs.length) ++
          (takeGreatest order xs.length xs ys).1.reverse)
      else none := by
  have inside := least.inFirst
  have insideToo := greatest.inFirst
  have after : (takeLeast order xs.length xs ys).2.1.length = xs.length - first := by
    rw [least.firstRest, List.length_drop]
  have before : (takeGreatest order xs.length xs ys).2.1.length = firstBehind := by
    rw [greatest.firstRest, List.length_take, Nat.min_eq_left insideToo]
  have meetsFirst : xs.length - first + firstBehind = xs.length ↔ firstBehind = first := by omega
  have meetsSecond : xs.length - first + firstBehind = xs.length + (ys.length - xs.length) ↔
      firstBehind = first + (ys.length - xs.length) := by omega
  unfold mergeFromEnds
  dsimp only
  rw [after, before, least.firstRest, least.secondRest]
  simp only [meetsFirst, meetsSecond]

theorem mergeFromEnds_perm {merged : List α} (halves : xs.length ≤ ys.length)
    (found : mergeFromEnds order xs ys = some merged) : merged.Perm (xs ++ ys) := by
  obtain ⟨first, second, least, _⟩ := takeMerged_taken (isLess order) xs.length xs ys
  obtain ⟨firstBehind, secondBehind, greatest, _⟩ := takeGreatest_taken order xs.length xs ys
  have fromStart := least.asked (Nat.le_refl _) halves
  have fromEnd := greatest.asked (Nat.le_refl _) halves
  have atEnd := greatest.taken
  rw [mergeFromEnds_eq least greatest] at found
  split at found
  · rename_i agreed
    cases found
    have noneOfFirst : firstBehind = first + 0 := agreed
    have spareOfSecond : secondBehind = second + (ys.length - xs.length) := by omega
    rw [noneOfFirst, spareOfSecond] at atEnd
    exact ends_perm least.taken atEnd
  · split at found
    · rename_i agreed
      cases found
      have noneOfSecond : secondBehind = second + 0 := by omega
      rw [agreed, noneOfSecond] at atEnd
      have restored := ends_perm least.taken atEnd
      rwa [List.take_zero, List.append_nil] at restored
    · cases found

theorem isLess_iff : isLess order x y = true ↔ order x y = .lt := decide_eq_true_iff

theorem isLess_eq_false : isLess order x y = false ↔ order x y ≠ .lt := decide_eq_false_iff_not

theorem InOrder.left (inOrder : InOrder order (xs ++ ys)) : InOrder order xs := (List.pairwise_append.mp inOrder).1

theorem InOrder.tail (inOrder : InOrder order (x :: xs)) : InOrder order xs := (List.pairwise_cons.mp inOrder).2

-- The head of a list in order is not greater than anything in it.
theorem InOrder.head (weak : Weak order elements) (inside : ∀ z ∈ x :: xs, z ∈ elements)
    (inOrder : InOrder order (x :: xs)) : ∀ z ∈ x :: xs, order z x ≠ .lt := by
  refine List.forall_mem_cons.mpr ⟨fun less => ?_, (List.pairwise_cons.mp inOrder).1⟩
  have isHead := inside x List.mem_cons_self
  exact weak.asymm x isHead x isHead less less

-- Taking from the fronts: an element of the second list that is less than the head of the first comes before all
-- that is left, and one that is not comes behind that head, with all that follows.
theorem takeMerged_front (weak : Weak order (xs ++ ys)) (isFirst : InOrder order xs) (isSecond : InOrder order ys)
    (count : Nat) :
    insertAll order xs ys = (takeMerged (isLess order) count xs ys).1 ++
      insertAll order (takeMerged (isLess order) count xs ys).2.1 (takeMerged (isLess order) count xs ys).2.2 := by
  induction count generalizing xs ys with
  | zero => rfl
  | succ count ih =>
    match xs, ys with
    | [], ys => rfl
    | x :: xs, [] => rfl
    | x :: xs, y :: ys =>
      have headFirst := isFirst.head weak fun z listed => List.mem_append_left _ listed
      have headSecond := isSecond.head weak fun z listed => List.mem_append_right _ listed
      have inFirst : ∀ {z : α}, z ∈ x :: xs → z ∈ x :: xs ++ y :: ys := List.mem_append_left _
      have inSecond : ∀ {z : α}, z ∈ y :: ys → z ∈ x :: xs ++ y :: ys := List.mem_append_right _
      unfold takeMerged
      split
      · rename_i here
        have least : ∀ z ∈ x :: xs, order y z = .lt := fun z listed =>
          weak.lt_of_lt_of_le (inSecond List.mem_cons_self) (inFirst List.mem_cons_self) (inFirst listed)
            (isLess_iff.mp here) (headFirst z listed)
        have behind : ∀ y' ∈ ys, ∀ z ∈ [y], order y' z ≠ .lt := fun y' listed z isOnly =>
          List.mem_singleton.mp isOnly ▸ headSecond y' (List.mem_cons_of_mem y listed)
        have later : Weak order (x :: xs ++ ys) := weak.mono fun z listed => by
          simp only [List.mem_append, List.mem_cons] at listed ⊢
          tauto
        rw [insertAll_first least, ← List.singleton_append, insertAll_behind behind, ih later isFirst isSecond.tail]
        rfl
      · rename_i notHere
        have notLess : order y x ≠ .lt := fun less => notHere (isLess_iff.mpr less)
        have behind : ∀ y' ∈ y :: ys, ∀ z ∈ [x], order y' z ≠ .lt := fun y' listed z isOnly =>
          List.mem_singleton.mp isOnly ▸ weak.trans y' (inSecond listed) y (inSecond List.mem_cons_self) x
            (inFirst List.mem_cons_self) (headSecond y' listed) notLess
        have later : Weak order (xs ++ y :: ys) := weak.mono fun z listed => List.mem_cons_of_mem x listed
        rw [← List.singleton_append, insertAll_behind behind, ih later isFirst.tail isSecond]
        rfl

-- Taking from the ends, of lists with the last element first.
theorem takeMerged_behind (weak : Weak order (xs.reverse ++ ys.reverse)) (isFirst : InOrder order xs.reverse)
    (isSecond : InOrder order ys.reverse) (count : Nat) :
    insertAll order xs.reverse ys.reverse =
      insertAll order (takeMerged (fun x y => isLess order y x) count ys xs).2.2.reverse
        (takeMerged (fun x y => isLess order y x) count ys xs).2.1.reverse ++
          (takeMerged (fun x y => isLess order y x) count ys xs).1.reverse := by
  induction count generalizing xs ys with
  | zero => exact (List.append_nil _).symm
  | succ count ih =>
    match ys, xs with
    | [], xs => exact (List.append_nil _).symm
    | y :: ys, [] => exact (List.append_nil _).symm
    | y :: ys, x :: xs =>
      have inFirst : ∀ {z : α}, z ∈ x :: xs → z ∈ (x :: xs).reverse ++ (y :: ys).reverse := fun listed =>
        List.mem_append_left _ (List.mem_reverse.mpr listed)
      have inSecond : ∀ {z : α}, z ∈ y :: ys → z ∈ (x :: xs).reverse ++ (y :: ys).reverse := fun listed =>
        List.mem_append_right _ (List.mem_reverse.mpr listed)
      have irrefl : ∀ {z : α}, z ∈ (x :: xs).reverse ++ (y :: ys).reverse → order z z ≠ .lt := fun listed less =>
        weak.asymm _ listed _ listed less less
      have lastFirst : ∀ z ∈ x :: xs, order x z ≠ .lt := List.forall_mem_cons.mpr
        ⟨irrefl (inFirst List.mem_cons_self), (List.pairwise_cons.mp (List.pairwise_reverse.mp isFirst)).1⟩
      have lastSecond : ∀ z ∈ y :: ys, order y z ≠ .lt := List.forall_mem_cons.mpr
        ⟨irrefl (inSecond List.mem_cons_self), (List.pairwise_cons.mp (List.pairwise_reverse.mp isSecond)).1⟩
      unfold takeMerged
      split
      · rename_i here
        have before : ∀ y' ∈ (y :: ys).reverse, ∀ z ∈ [x], order y' z = .lt := fun y' listed z isOnly =>
          List.mem_singleton.mp isOnly ▸ weak.lt_of_le_of_lt (inSecond (List.mem_reverse.mp listed))
            (inSecond List.mem_cons_self) (inFirst List.mem_cons_self)
            (lastSecond y' (List.mem_reverse.mp listed)) (isLess_iff.mp here)
        have later : Weak order (xs.reverse ++ (y :: ys).reverse) := weak.mono fun z listed => by
          simp only [List.mem_append, List.mem_reverse, List.mem_cons] at listed ⊢
          tauto
        have shorter : InOrder order xs.reverse := (List.reverse_cons ▸ isFirst : InOrder order (_ ++ [x])).left
        rw [List.reverse_cons (a := x), insertAll_before before, ih later shorter isSecond, List.append_assoc]
        dsimp only
        rw [List.reverse_cons (a := x)]
      · rename_i notHere
        have notLess : order y x ≠ .lt := fun less => notHere (isLess_iff.mpr less)
        have greatest : ∀ z ∈ ys.reverse ++ (x :: xs).reverse, order y z ≠ .lt := by
          intro z listed
          rcases List.mem_append.mp listed with ofSecond | ofFirst
          · exact lastSecond z (List.mem_cons_of_mem y (List.mem_reverse.mp ofSecond))
          · have ofFirst := List.mem_reverse.mp ofFirst
            exact weak.trans y (inSecond List.mem_cons_self) x (inFirst List.mem_cons_self) z (inFirst ofFirst) notLess
              (lastFirst z ofFirst)
        have later : Weak order ((x :: xs).reverse ++ ys.reverse) := weak.mono fun z listed => by
          simp only [List.mem_append, List.mem_reverse, List.mem_cons] at listed ⊢
          tauto
        have shorter : InOrder order ys.reverse := (List.reverse_cons ▸ isSecond : InOrder order (_ ++ [y])).left
        rw [List.reverse_cons (a := y), insertAll_last greatest, ih later isFirst shorter, List.append_assoc]
        dsimp only
        rw [List.reverse_cons (a := y)]

theorem takeGreatest_behind (weak : Weak order (xs ++ ys)) (isFirst : InOrder order xs) (isSecond : InOrder order ys)
    (count : Nat) :
    insertAll order xs ys = insertAll order (takeGreatest order count xs ys).2.1 (takeGreatest order count xs ys).2.2 ++
      (takeGreatest order count xs ys).1.reverse := by
  have turned := List.reverse_reverse xs
  have turnedToo := List.reverse_reverse ys
  have weakTurned : Weak order (xs.reverse.reverse ++ ys.reverse.reverse) := by rwa [turned, turnedToo]
  have taken := takeMerged_behind weakTurned (by rwa [turned]) (by rwa [turnedToo]) count
  rwa [turned, turnedToo] at taken

theorem takeMerged_all (enough : xs.length + ys.length ≤ count) :
    (takeMerged goesFirst count xs ys).2.1 = [] ∨ (takeMerged goesFirst count xs ys).2.2 = [] := by
  induction count generalizing xs ys with
  | zero => exact .inl (List.eq_nil_of_length_eq_zero (Nat.le_zero.mp (Nat.le_trans (Nat.le_add_right _ _) enough)))
  | succ count ih =>
    match xs, ys with
    | [], ys => exact .inl rfl
    | x :: xs, [] => exact .inr rfl
    | x :: xs, y :: ys =>
      simp only [List.length_cons] at enough
      unfold takeMerged
      split
      · exact ih (by rw [List.length_cons]; omega)
      · exact ih (by rw [List.length_cons]; omega)

theorem insertAll_left (one : xs = [] ∨ ys = []) (inOrder : InOrder order ys) : insertAll order xs ys = xs ++ ys := by
  rcases one with rfl | rfl
  · exact insertAll_inOrder inOrder
  · rw [insertAll_nil, List.append_nil]

theorem merge_weak (weak : Weak order (xs ++ ys)) (isFirst : InOrder order xs) (isSecond : InOrder order ys) :
    merge order xs ys = insertAll order xs ys := by
  unfold merge
  dsimp only
  split
  · obtain ⟨_, _, parts, _⟩ := takeMerged_taken (isLess order) (xs.length + ys.length) xs ys
    have left : InOrder order (takeLeast order (xs.length + ys.length) xs ys).2.2 :=
      isSecond.sublist (parts.secondRest ▸ List.drop_sublist _ _)
    have one : (takeLeast order (xs.length + ys.length) xs ys).2.1 = [] ∨
        (takeLeast order (xs.length + ys.length) xs ys).2.2 = [] := takeMerged_all (Nat.le_refl _)
    rw [takeMerged_front weak isFirst isSecond (xs.length + ys.length), List.append_assoc]
    exact congrArg _ (insertAll_left one left).symm
  · obtain ⟨_, _, parts, _⟩ := takeGreatest_taken order (xs.length + ys.length) xs ys
    have left : InOrder order (takeGreatest order (xs.length + ys.length) xs ys).2.2 :=
      isSecond.sublist (parts.secondRest ▸ List.take_sublist _ _)
    have enough : ys.reverse.length + xs.reverse.length ≤ xs.length + ys.length :=
      Nat.le_of_eq (by rw [List.length_reverse, List.length_reverse, Nat.add_comm])
    have one : (takeGreatest order (xs.length + ys.length) xs ys).2.1 = [] ∨
        (takeGreatest order (xs.length + ys.length) xs ys).2.2 = [] :=
      (takeMerged_all enough).symm.imp List.reverse_eq_nil_iff.mpr List.reverse_eq_nil_iff.mpr
    rw [takeGreatest_behind weak isFirst isSecond (xs.length + ys.length), insertAll_left one left]

theorem steady_front (weak : Weak order (xs ++ ys)) (isFirst : InOrder order xs) (isSecond : InOrder order ys) :
    Steady (isLess order) xs ys where
  onFirst := by
    refine isFirst.imp_of_mem fun here later notGreater y listed less => isLess_iff.mpr ?_
    exact weak.lt_of_lt_of_le (List.mem_append_right _ listed) (List.mem_append_left _ here)
      (List.mem_append_left _ later) (isLess_iff.mp less) notGreater
  onSecond := by
    refine isSecond.imp_of_mem fun here later notGreater x listed notLess => isLess_eq_false.mpr ?_
    exact weak.trans _ (List.mem_append_right _ later) _ (List.mem_append_right _ here) _
      (List.mem_append_left _ listed) notGreater (isLess_eq_false.mp notLess)

theorem steady_behind (weak : Weak order (xs ++ ys)) (isFirst : InOrder order xs) (isSecond : InOrder order ys) :
    Steady (fun x y => isLess order y x) ys.reverse xs.reverse where
  onFirst := by
    refine List.pairwise_reverse.mpr (isSecond.imp_of_mem fun here later notGreater x listed less => ?_)
    exact isLess_iff.mpr (weak.lt_of_le_of_lt (List.mem_append_right _ here) (List.mem_append_right _ later)
      (List.mem_append_left _ (List.mem_reverse.mp listed)) notGreater (isLess_iff.mp less))
  onSecond := by
    refine List.pairwise_reverse.mpr (isFirst.imp_of_mem fun here later notGreater y listed notLess => ?_)
    exact isLess_eq_false.mpr (weak.trans _ (List.mem_append_right _ (List.mem_reverse.mp listed)) _
      (List.mem_append_left _ later) _ (List.mem_append_left _ here) (isLess_eq_false.mp notLess) notGreater)

-- A list that starts with what one end has taken and ends with what the other has is told by them, up to one element.
theorem between_ends {front behind between after before : List α} (starts : elements = front ++ after)
    (ends : elements = before ++ behind) (perm : (front ++ between ++ behind).Perm elements)
    (single : between.length ≤ 1) : front ++ between ++ behind = elements := by
  have length := perm.length_eq
  have startLength := congrArg List.length starts
  have endLength := congrArg List.length ends
  simp only [List.length_append] at length startLength endLength
  obtain ⟨middle, rfl⟩ : ∃ middle, before = front ++ middle := by
    obtain ⟨middle, same, _⟩ | ⟨middle, same, _⟩ := List.append_eq_append_iff.mp (starts.symm.trans ends)
    · exact ⟨middle, same⟩
    · have empty : middle = [] := by
        have short := congrArg List.length same
        rw [List.length_append] at short
        exact List.eq_nil_of_length_eq_zero (by omega)
      exact ⟨[], by rw [same, empty, List.append_nil, List.append_nil]⟩
  subst ends
  have same : between.Perm middle := (List.perm_append_left_iff front).mp ((List.perm_append_right_iff behind).mp perm)
  have sameLength := same.length_eq
  match between, middle with
  | [], [] => rfl
  | [x], [y] => rw [List.singleton_perm_singleton.mp same]
  | [], _ :: _ | _ :: _, [] => cases sameLength
  | _ :: _ :: _, _ => exact absurd single (by rw [List.length_cons, List.length_cons]; omega)
  | [_], _ :: _ :: _ => exact absurd sameLength (by simp)

-- If the one end had taken an element of a list that the other has taken too, there would be an element of the other
-- list that neither has taken, and the two would disagree on which of them comes first.
theorem ends_meet {behind : List α × List α × List α} (halves : xs.length ≤ ys.length)
    (least : Taken xs.length xs ys parts first second) (apart : Apart (isLess order) xs ys first second)
    (greatest : TakenBehind xs.length xs ys behind firstBehind secondBehind)
    (apartBehind : ApartBehind order xs ys firstBehind secondBehind) :
    first ≤ firstBehind ∧ second ≤ secondBehind := by
  have fromStart := least.asked (Nat.le_refl _) halves
  have fromEnd := greatest.asked (Nat.le_refl _) halves
  have inFirst := least.inFirst
  have inSecond := least.inSecond
  have inFirstBehind := greatest.inFirst
  have inSecondBehind := greatest.inSecond
  constructor
  · by_contra crossed
    have ofFirst : firstBehind < xs.length := by omega
    have ofSecond : second < ys.length := by omega
    have notLess := apart.firstTaken xs[firstBehind] (List.mem_take_iff_getElem.mpr ⟨firstBehind, by omega, rfl⟩)
      ys[second] (List.mem_drop_iff_getElem.mpr ⟨0, by omega, rfl⟩)
    have less := apartBehind.firstTaken xs[firstBehind] (List.mem_drop_iff_getElem.mpr ⟨0, by omega, rfl⟩)
      ys[second] (List.mem_take_iff_getElem.mpr ⟨second, by omega, rfl⟩)
    exact Bool.eq_false_iff.mp notLess less
  · by_contra crossed
    have ofFirst : first < xs.length := by omega
    have ofSecond : secondBehind < ys.length := by omega
    have less := apart.secondTaken ys[secondBehind] (List.mem_take_iff_getElem.mpr ⟨secondBehind, by omega, rfl⟩)
      xs[first] (List.mem_drop_iff_getElem.mpr ⟨0, by omega, rfl⟩)
    have notLess := apartBehind.secondTaken ys[secondBehind] (List.mem_drop_iff_getElem.mpr ⟨0, by omega, rfl⟩)
      xs[first] (List.mem_take_iff_getElem.mpr ⟨first, by omega, rfl⟩)
    exact Bool.eq_false_iff.mp notLess less

theorem mergeFromEnds_weak (weak : Weak order (xs ++ ys)) (isFirst : InOrder order xs) (isSecond : InOrder order ys)
    (halves : xs.length ≤ ys.length) (near : ys.length ≤ xs.length + 1) :
    mergeFromEnds order xs ys = some (insertAll order xs ys) := by
  obtain ⟨first, second, least, apart⟩ := takeMerged_taken (isLess order) xs.length xs ys
  obtain ⟨firstBehind, secondBehind, greatest, apartBehind⟩ := takeGreatest_taken order xs.length xs ys
  have fromStart := least.asked (Nat.le_refl _) halves
  have fromEnd := greatest.asked (Nat.le_refl _) halves
  obtain ⟨firstMeets, secondMeets⟩ := ends_meet halves least (apart (steady_front weak isFirst isSecond)) greatest
    (apartBehind (steady_behind weak isFirst isSecond))
  obtain ⟨between, single, found⟩ : ∃ between : List α, between.length ≤ 1 ∧ mergeFromEnds order xs ys =
      some ((takeLeast order xs.length xs ys).1 ++ between ++ (takeGreatest order xs.length xs ys).1.reverse) := by
    have short : ∀ elements : List α, (elements.take (ys.length - xs.length)).length ≤ 1 := fun elements =>
      Nat.le_trans (List.length_take_le _ _) (by omega)
    rw [mergeFromEnds_eq least greatest]
    split
    · exact ⟨_, short _, rfl⟩
    · rename_i moved
      rw [if_pos (show firstBehind = first + (ys.length - xs.length) by omega)]
      exact ⟨_, short _, rfl⟩
  have inserted : (xs ++ ys).Perm (insertAll order xs ys) := List.perm_append_comm.trans insertAll_perm.symm
  have perm := (mergeFromEnds_perm halves found).trans inserted
  rw [found]
  exact congrArg some (between_ends (takeMerged_front weak isFirst isSecond xs.length)
    (takeGreatest_behind weak isFirst isSecond xs.length) perm single)

end TreePath.Sorting
