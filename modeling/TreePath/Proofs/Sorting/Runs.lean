import TreePath.Proofs.Sorting.Merge
import TreePath.Sorting.Runs
namespace TreePath.Sorting

-- What a step that may give nothing gives is good, and it does give something if it is sound.
structure Gives {β : Type} (sound : Prop) (result : Option β) (holds : β → Prop) : Prop where
  good : ∀ b, result = some b → holds b
  given : sound → ∃ b, result = some b

-- The sorted form of elements: the same elements in any case, and those that insertion would leave if they are
-- compared without contradiction.
structure SortedFor {α : Type} (order : α → α → Ordering) (elements sorted : List α) : Prop where
  perm : sorted.Perm elements
  weak : Weak order elements → sorted = sort order elements

variable {α β γ : Type} {order : α → α → Ordering} {elements rest xs ys zs : List α} {a b c d p q r s : α}
  {sound sound' : Prop} {result : Option β} {holds : β → Prop} {later : γ → Prop}

namespace Gives

theorem pure {x : β} (good : holds x) : Gives sound (some x) holds where
  good _ same := Option.some.inj same ▸ good
  given _ := ⟨x, rfl⟩

theorem bind {next : β → Option γ} (first : Gives sound result holds)
    (second : ∀ x, holds x → Gives sound (next x) later) : Gives sound (result >>= next) later where
  good z found := by
    obtain ⟨x, isFirst, isSecond⟩ := Option.bind_eq_some_iff.mp found
    exact (second x (first.good x isFirst)).good z isSecond
  given isSound := by
    obtain ⟨x, isFirst⟩ := first.given isSound
    obtain ⟨z, isSecond⟩ := (second x (first.good x isFirst)).given isSound
    exact ⟨z, Option.bind_eq_some_iff.mpr ⟨x, isFirst, isSecond⟩⟩

theorem mono (gives : Gives sound result holds) (weaker : sound' → sound) : Gives sound' result holds where
  good := gives.good
  given isSound := gives.given (weaker isSound)

end Gives

namespace SortedFor

theorem sort (order : α → α → Ordering) (elements : List α) : SortedFor order elements (sort order elements) where
  perm := sort_perm
  weak _ := rfl

theorem inOrder (sorted : SortedFor order xs ys) (weak : Weak order xs) : InOrder order ys :=
  sorted.weak weak ▸ sort_pairwise weak

theorem merge {left right : List α} (first : SortedFor order xs left) (second : SortedFor order ys right) :
    SortedFor order (xs ++ ys) (merge order left right) where
  perm := merge_perm.trans (first.perm.append second.perm)
  weak weak := by
    have sorted : Weak order (left ++ right) := weak.perm (first.perm.append second.perm)
    rw [merge_weak sorted (first.inOrder weak.left) (second.inOrder weak.right), first.weak weak.left,
      second.weak weak.right, sort_parts weak]

-- Halves one of which may have one element more.
theorem mergeFromEnds {left right : List α} (first : SortedFor order xs left) (second : SortedFor order ys right)
    (halves : xs.length ≤ ys.length) (near : ys.length ≤ xs.length + 1) :
    Gives (Weak order (xs ++ ys)) (mergeFromEnds order left right) (SortedFor order (xs ++ ys)) := by
  rw [← first.perm.length_eq, ← second.perm.length_eq] at halves near
  have merged : Weak order (xs ++ ys) →
      Sorting.mergeFromEnds order left right = some (Sorting.sort order (xs ++ ys)) := by
    intro weak
    have sorted : Weak order (left ++ right) := weak.perm (first.perm.append second.perm)
    rw [mergeFromEnds_weak sorted (first.inOrder weak.left) (second.inOrder weak.right) halves near,
      first.weak weak.left, second.weak weak.right, sort_parts weak]
  refine ⟨fun sorted found => ⟨?_, fun weak => ?_⟩, fun weak => ⟨_, merged weak⟩⟩
  · exact (mergeFromEnds_perm halves found).trans (first.perm.append second.perm)
  · exact Option.some.inj (found.symm.trans (merged weak))

end SortedFor

theorem mergePairs_perm : (mergePairs order a b c d).Perm [a, b, c, d] := by
  have swapInside : ∀ (swapped : Bool) (least x y greatest : α),
      (if swapped then [least, y, x, greatest] else [least, x, y, greatest]).Perm [least, x, y, greatest] := by
    intro swapped least x y greatest
    cases swapped with
    | true => exact .cons least (.swap x y [greatest])
    | false => exact .refl _
  have leastRight : ([a, b] ++ c :: [d]).Perm (c :: ([a, b] ++ [d])) := List.perm_middle
  have greatestLeft : ([c, d] ++ [b]).Perm (b :: ([c, d] ++ [])) := List.perm_middle
  refine (swapInside _ _ _ _ _).trans ?_
  cases isLess order c a with
  | true =>
    cases isLess order d b with
    | true => exact (List.Perm.swap a c [d, b]).trans (greatestLeft.cons a)
    | false => exact leastRight.symm
  | false =>
    cases isLess order d b with
    | true => exact greatestLeft.cons a
    | false => exact .refl _

-- The outer comparisons leave the two elements in the middle to be compared.
theorem mergePairs_weak (weak : Weak order [a, b, c, d]) (first : order b a ≠ .lt) (second : order d c ≠ .lt) :
    mergePairs order a b c d = insertAll order [a, b] [c, d] := by
  have isA : a ∈ [a, b, c, d] := by simp
  have isB : b ∈ [a, b, c, d] := by simp
  have isC : c ∈ [a, b, c, d] := by simp
  have isD : d ∈ [a, b, c, d] := by simp
  by_cases leastRight : order c a = .lt
  · have below : order c b = .lt := weak.lt_of_lt_of_le isC isA isB leastRight first
    by_cases greatestLeft : order d b = .lt
    · by_cases crossed : order d a = .lt
      · simp [mergePairs, insertAll, insertFromEnd, isLess, leastRight, below, greatestLeft, crossed, second]
      · simp [mergePairs, insertAll, insertFromEnd, isLess, leastRight, below, greatestLeft, crossed]
    · simp [mergePairs, insertAll, insertFromEnd, isLess, leastRight, below, greatestLeft, first]
  · by_cases greatestLeft : order d b = .lt
    · have below : order c b = .lt := weak.lt_of_le_of_lt isC isD isB second greatestLeft
      simp [mergePairs, insertAll, insertFromEnd, isLess, leastRight, below, greatestLeft, second]
    · by_cases crossed : order c b = .lt
      · simp [mergePairs, insertAll, insertFromEnd, isLess, leastRight, greatestLeft, crossed]
      · simp [mergePairs, insertAll, insertFromEnd, isLess, leastRight, greatestLeft, crossed, second]

theorem sort_pair (order : α → α → Ordering) (p q : α) :
    sort order [p, q] = if isLess order q p then [q, p] else [p, q] := by
  by_cases less : order q p = .lt <;> simp [sort, insertAll, insertFromEnd, isLess, less]

theorem sortFour_sorted (order : α → α → Ordering) (p q r s : α) :
    SortedFor order [p, q, r, s] (sortFour order p q r s) := by
  have pair : ∀ p q : α, ∃ a b, (if isLess order q p then (q, p) else (p, q)) = (a, b) ∧ sort order [p, q] = [a, b] := by
    intro p q
    rw [sort_pair]
    cases isLess order q p with
    | true => exact ⟨q, p, rfl, rfl⟩
    | false => exact ⟨p, q, rfl, rfl⟩
  obtain ⟨a, b, isFirst, firstSorted⟩ := pair p q
  obtain ⟨c, d, isSecond, secondSorted⟩ := pair r s
  have perm : [a, b, c, d].Perm [p, q, r, s] := by
    have sorted : (sort order [p, q] ++ sort order [r, s]).Perm ([p, q] ++ [r, s]) := sort_perm.append sort_perm
    rwa [firstSorted, secondSorted] at sorted
  unfold sortFour
  rw [isFirst, isSecond]
  refine ⟨mergePairs_perm.trans perm, fun weak => ?_⟩
  have parts : Weak order ([p, q] ++ [r, s]) := weak
  have firstOrder := sort_pairwise parts.left
  have secondOrder := sort_pairwise parts.right
  rw [firstSorted] at firstOrder
  rw [secondSorted] at secondOrder
  have merged := mergePairs_weak (weak.perm perm) ((List.pairwise_cons.mp firstOrder).1 b (List.mem_singleton_self b))
    ((List.pairwise_cons.mp secondOrder).1 d (List.mem_singleton_self d))
  exact merged.trans (firstSorted ▸ secondSorted ▸ (sort_parts parts).symm)

theorem sortHalf_sorted (order : α → α → Ordering) (count : Nat) (half : List α) :
    SortedFor order half (sortHalf order count half) := by
  unfold sortHalf
  split
  · rename_i p q r s rest
    split
    · have four := sortFour_sorted order p q r s
      refine ⟨?_, fun weak => ?_⟩
      · exact insertAll_perm.trans (List.perm_append_comm.trans (four.perm.append_right rest))
      · have parts : Weak order ([p, q, r, s] ++ rest) := weak
        rw [four.weak parts.left, ← sort_append]
        rfl
    · exact .sort order _
  · exact .sort order half

theorem sortShort_sorted (order : α → α → Ordering) (elements : List α) :
    Gives (Weak order elements) (sortShort order elements) (SortedFor order elements) := by
  unfold sortShort
  dsimp only
  split
  · rename_i single
    refine .pure ⟨.refl _, fun _ => (sort_inOrder ?_).symm⟩
    match elements, single with
    | [], _ => exact .nil
    | [x], _ => exact List.pairwise_singleton _ x
  · have first := sortHalf_sorted order elements.length (elements.take (elements.length / 2))
    have second := sortHalf_sorted order elements.length (elements.drop (elements.length / 2))
    have merged := first.mergeFromEnds second
    rw [List.take_append_drop, List.length_take, List.length_drop] at merged
    exact merged (by omega) (by omega)

-- A run that stands for a stretch of a list: its sorted form, or the stretch itself, which an eager sort never leaves.
structure Run.For (eager : Bool) (order : α → α → Ordering) (stretch : List α) (run : Run α) : Prop where
  sorted : run.isSorted = true → SortedFor order stretch run.elements
  unsorted : run.isSorted = false → eager = false ∧ run.elements = stretch

variable {eager : Bool} {sortRun : List α → Option (List α)} {run : Run α} {stretch before : List α}
  {next : List α → Option (Run α × List α)} {join : Run α → Run α → Option (Run α)} {waiting : Waiting α}

-- A sort that gives the sorted form of everything.
def SortsAll (order : α → α → Ordering) (sortRun : List α → Option (List α)) : Prop :=
  ∀ elements, Gives (Weak order elements) (sortRun elements) (SortedFor order elements)

theorem Run.For.of_sorted (sorted : SortedFor order stretch elements) : Run.For eager order stretch ⟨elements, true⟩ where
  sorted _ := sorted
  unsorted := nofun

theorem Run.For.sort (stands : run.For eager order stretch) (sorts : eager = false → SortsAll order sortRun) :
    Gives (Weak order stretch) (run.sorted sortRun) (SortedFor order stretch) := by
  unfold Run.sorted
  cases isSorted : run.isSorted with
  | true => exact .pure (stands.sorted isSorted)
  | false =>
    obtain ⟨isPatient, same⟩ := stands.unsorted isSorted
    rw [same]
    exact sorts isPatient stretch

-- Two runs that are neighbours are joined to one for the whole of both stretches.
def JoinsBoth (eager : Bool) (order : α → α → Ordering) (join : Run α → Run α → Option (Run α)) : Prop :=
  ∀ a b xs ys, a.For eager order xs → b.For eager order ys →
    Gives (Weak order (xs ++ ys)) (join a b) (Run.For eager order (xs ++ ys))

theorem join_both (sorts : eager = false → SortsAll order sortRun) :
    JoinsBoth eager order (Run.join order sortRun) := by
  intro a b xs ys first second
  unfold Run.join
  split
  · refine ((first.sort sorts).mono Weak.left).bind fun left firstSorted => ?_
    refine ((second.sort sorts).mono Weak.right).bind fun right secondSorted => ?_
    exact .pure (.of_sorted (firstSorted.merge secondSorted))
  · rename_i neither
    rw [Bool.or_eq_true, not_or, Bool.not_eq_true, Bool.not_eq_true] at neither
    obtain ⟨isPatient, same⟩ := first.unsorted neither.1
    obtain ⟨-, sameToo⟩ := second.unsorted neither.2
    exact .pure ⟨nofun, fun _ => ⟨isPatient, congrArg₂ (· ++ ·) same sameToo⟩⟩

-- A run is cut off the front of a list. It is not empty unless the list is.
def CutsFront (eager : Bool) (order : α → α → Ordering) (next : List α → Option (Run α × List α)) : Prop :=
  ∀ elements, Gives (Weak order elements) (next elements) fun cut =>
    ∃ front, elements = front ++ cut.2 ∧ cut.1.For eager order front ∧
      (elements ≠ [] → cut.2.length < elements.length)

theorem countOnward_run (down : Bool) (weak : Weak order (a :: rest.take (countOnward order down a rest))) :
    (a :: rest.take (countOnward order down a rest)).Pairwise fun x y => isLess order y x = down := by
  induction rest generalizing a with
  | nil => exact List.pairwise_singleton _ a
  | cons b rest ih =>
    unfold countOnward at weak ⊢
    split
    · rename_i onward
      rw [if_pos onward] at weak
      have later := ih (weak.mono fun z listed => List.mem_cons_of_mem a listed)
      refine List.pairwise_cons.mpr ⟨List.forall_mem_cons.mpr ⟨onward, fun z taken => ?_⟩, later⟩
      have isSecond : b ∈ a :: b :: rest.take (countOnward order down b rest) :=
        List.mem_cons_of_mem a List.mem_cons_self
      have isThird := List.mem_cons_of_mem a (List.mem_cons_of_mem b taken)
      have further := (List.pairwise_cons.mp later).1 z taken
      cases down with
      | true =>
        have notBack := weak.asymm b isSecond a List.mem_cons_self (isLess_iff.mp onward)
        exact isLess_iff.mpr
          (weak.lt_of_lt_of_le isThird isSecond List.mem_cons_self (isLess_iff.mp further) notBack)
      | false =>
        exact isLess_eq_false.mpr (weak.trans z isThird b isSecond a List.mem_cons_self
          (isLess_eq_false.mp further) (isLess_eq_false.mp onward))
    · exact List.pairwise_singleton _ a

theorem orderedStart_run (weak : Weak order (elements.take (orderedStart order elements).1)) :
    (elements.take (orderedStart order elements).1).Pairwise fun x y =>
      isLess order y x = (orderedStart order elements).2 := by
  match elements with
  | [] => exact .nil
  | [x] => exact List.pairwise_singleton _ x
  | x :: y :: rest =>
    have onward : countOnward order (isLess order y x) x (y :: rest) =
        countOnward order (isLess order y x) y rest + 1 := if_pos rfl
    change Weak order (x :: (y :: rest).take (countOnward order (isLess order y x) y rest + 1)) at weak
    rw [← onward] at weak
    have run := countOnward_run _ weak
    rwa [onward] at run

theorem orderedStart_pos (inhabited : elements ≠ []) : 0 < (orderedStart order elements).1 := by
  match elements with
  | [] => exact absurd rfl inhabited
  | [x] => exact Nat.one_pos
  | x :: y :: rest => exact Nat.succ_pos _

-- What goes up is in order, and what goes strictly down is turned round.
theorem orderedStart_sorted (order : α → α → Ordering) (elements : List α) :
    SortedFor order (elements.take (orderedStart order elements).1)
      (if (orderedStart order elements).2 then (elements.take (orderedStart order elements).1).reverse
        else elements.take (orderedStart order elements).1) := by
  have run : Weak order (elements.take (orderedStart order elements).1) → _ := orderedStart_run
  cases down : (orderedStart order elements).2 with
  | true =>
    rw [down] at run
    exact ⟨List.reverse_perm _, fun weak => (sort_down ((run weak).imp isLess_iff.mp)).symm⟩
  | false =>
    rw [down] at run
    exact ⟨.refl _, fun weak => (sort_inOrder ((run weak).imp isLess_eq_false.mp)).symm⟩

theorem firstRun_cuts (order : α → α → Ordering) (eager : Bool) {least : Nat} (positive : 0 < least) :
    CutsFront eager order (firstRun order eager least) := by
  intro elements
  have shorter : ∀ count, 0 < count → elements ≠ [] → (elements.drop count).length < elements.length := by
    intro count positive inhabited
    have length := List.length_pos_iff.mpr inhabited
    rw [List.length_drop]
    omega
  unfold firstRun
  dsimp only
  split
  · refine .pure ⟨_, (List.take_append_drop _ _).symm, .of_sorted (orderedStart_sorted order elements), ?_⟩
    exact fun inhabited => shorter _ (orderedStart_pos inhabited) inhabited
  · split
    · have inside : Weak order elements → Weak order (elements.take shortStretch) := fun weak =>
        weak.mono fun _ => List.mem_of_mem_take
      refine ((sortShort_sorted order (elements.take shortStretch)).mono inside).bind fun run sorted => ?_
      exact .pure ⟨_, (List.take_append_drop _ _).symm, .of_sorted sorted, shorter _ (Nat.succ_pos _)⟩
    · rename_i isPatient
      have patient : eager = false := Bool.eq_false_iff.mpr isPatient
      exact .pure ⟨_, (List.take_append_drop _ _).symm, ⟨nofun, fun _ => ⟨patient, rfl⟩⟩, shorter _ positive⟩

-- The runs that wait, the last first, and the stretch in front of the next run that they stand for.
inductive Held (eager : Bool) (order : α → α → Ordering) : Waiting α → List α → Prop where
  | none : Held eager order [] []
  | more {waiting : Waiting α} {before : List α} {run : Run α} {border : Nat} {stretch : List α}
      (held : Held eager order waiting before) (stands : run.For eager order stretch) :
      Held eager order ((run, border) :: waiting) (before ++ stretch)

theorem joinWaiting_held (joins : JoinsBoth eager order join) (depth : Nat) (held : Held eager order waiting before)
    (stands : run.For eager order stretch) :
    Gives (Weak order (before ++ stretch)) (joinWaiting join depth waiting run) fun joined =>
      ∃ before' stretch', Held eager order joined.1 before' ∧ joined.2.For eager order stretch' ∧
        before' ++ stretch' = before ++ stretch ∧ (depth = 0 → joined.1 = []) := by
  induction held generalizing run stretch with
  | none => exact .pure ⟨[], stretch, .none, stands, rfl, fun _ => rfl⟩
  | more held first ih =>
    unfold joinWaiting
    split
    · have neighbours := joins _ run _ stretch first stands
      rw [List.append_assoc]
      refine (neighbours.mono Weak.right).bind fun joined both => ?_
      exact ih both
    · rename_i shallow
      refine .pure ⟨_, stretch, .more held first, stands, rfl, fun none => ?_⟩
      exact absurd (none ▸ Nat.zero_le _) shallow

-- No border lies above depth zero, so nothing waits any longer.
theorem joinAll_stands (joins : JoinsBoth eager order join) (held : Held eager order waiting before)
    (stands : run.For eager order stretch) :
    Gives (Weak order (before ++ stretch)) (do
      let (_, joined) ← joinWaiting join 0 waiting run
      return joined) (Run.For eager order (before ++ stretch)) := by
  refine (joinWaiting_held joins 0 held stands).bind fun joined parts => ?_
  obtain ⟨before', stretch', held', stands', same, empty⟩ := parts
  obtain ⟨waiting', run'⟩ := joined
  obtain rfl : waiting' = [] := empty rfl
  cases held'
  exact .pure (same ▸ stands')

-- Every turn takes a run that is not empty off the rest, so the turns suffice if the rest is no longer than they
-- are many.
theorem joinRuns_stands (cuts : CutsFront eager order next) (joins : JoinsBoth eager order join)
    (length turns border : Nat) (held : Held eager order waiting before) (stands : run.For eager order stretch)
    (enough : rest.length ≤ turns) :
    Gives (Weak order (before ++ stretch ++ rest)) (joinRuns next join length turns border waiting run rest)
      (Run.For eager order (before ++ stretch ++ rest)) := by
  induction turns generalizing border waiting run rest before stretch with
  | zero =>
    have ended : rest = [] := List.eq_nil_of_length_eq_zero (Nat.le_zero.mp enough)
    rw [ended, List.append_nil]
    exact joinAll_stands joins held stands
  | succ turns ih =>
    unfold joinRuns
    split
    · rename_i ended
      rw [List.isEmpty_iff.mp ended, List.append_nil]
      exact joinAll_stands joins held stands
    · rename_i more
      have inhabited : rest ≠ [] := fun ended => more (List.isEmpty_iff.mpr ended)
      refine ((cuts rest).mono Weak.right).bind fun cut parts => ?_
      obtain ⟨following, behind⟩ := cut
      obtain ⟨front, same, followingStands, shorter⟩ := parts
      have fewer := shorter inhabited
      dsimp only at same fewer ⊢
      generalize borderDepth length _ border _ = depth
      refine ((joinWaiting_held joins depth held stands).mono Weak.left).bind fun joined parts => ?_
      obtain ⟨waiting', run'⟩ := joined
      obtain ⟨before', stretch', held', stands', kept, -⟩ := parts
      rw [same, ← kept, ← List.append_assoc]
      exact ih _ (.more held' stands') followingStands (by omega)

theorem leastRun_pos {length : Nat} (positive : 0 < length) : 0 < leastRun length := by
  unfold leastRun
  split
  · have half : 0 < length - length / 2 := by omega
    exact Nat.lt_min.mpr ⟨half, by decide⟩
  · rename_i long
    have twice : 2 ≤ Nat.pow 2 ((Nat.log2 length + 1) / 2) := by
      have binaryDigits : 1 ≤ Nat.log2 length := (Nat.le_log2 (by omega)).mpr (by omega)
      exact Nat.pow_le_pow_right Nat.two_pos (show 1 ≤ (Nat.log2 length + 1) / 2 by omega)
    exact Nat.div_pos (Nat.le_trans twice (Nat.le_add_right _ _)) Nat.two_pos

theorem sortByRuns_sorted (sorts : eager = false → SortsAll order sortRun) (elements : List α) :
    Gives (Weak order elements) (sortByRuns order eager sortRun elements) (SortedFor order elements) := by
  by_cases empty : elements = []
  · subst empty
    have nothing : sortByRuns order eager sortRun [] = some [] := by
      have least : leastRun 0 = 0 := by decide
      unfold sortByRuns
      dsimp only [List.length_nil]
      rw [least]
      rfl
    rw [nothing]
    exact .pure (.sort order [])
  · have cuts := firstRun_cuts order eager (leastRun_pos (List.length_pos_iff.mpr empty))
    unfold sortByRuns
    refine (cuts elements).bind fun cut parts => ?_
    obtain ⟨run, rest⟩ := cut
    obtain ⟨front, same, stands, shorter⟩ := parts
    have joined := joinRuns_stands cuts (join_both sorts) elements.length elements.length run.elements.length
      .none stands (Nat.le_of_lt (shorter empty))
    rw [List.nil_append, ← same] at joined
    exact joined.bind fun whole stands => stands.sort sorts

end TreePath.Sorting
