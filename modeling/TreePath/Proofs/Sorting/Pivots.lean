import TreePath.Proofs.Sorting.Runs
namespace TreePath.Sorting

variable {α : Type} {order : α → α → Ordering} {less : Nat → Nat → Bool} {size a b c bound position : Nat}
  {elements : List α} {pivot : α} {limit : Option α}

theorem medianOfThree_lt (first : a < bound) (second : b < bound) (third : c < bound) :
    medianOfThree less a b c < bound := by
  unfold medianOfThree
  split
  · split
    · exact second
    · exact third
  · exact first

-- Each of the three neighbourhoods is searched in parts that lie inside it.
theorem medianOfParts_lt (turns : Nat) (inhabited : 0 < size) (first : a + size ≤ bound) (second : b + size ≤ bound)
    (third : c + size ≤ bound) : medianOfParts less turns size a b c < bound := by
  induction turns generalizing size a b c with
  | zero => exact medianOfThree_lt (by omega) (by omega) (by omega)
  | succ turns ih =>
    unfold medianOfParts
    split
    · exact medianOfThree_lt (by omega) (by omega) (by omega)
    · have inside : ∀ start, start + size ≤ bound →
          medianOfParts less turns (size / 8) start (start + size / 8 * 4) (start + size / 8 * 7) < bound :=
        fun start _ => ih (by omega) (by omega) (by omega) (by omega)
      exact medianOfThree_lt (inside a first) (inside b second) (inside c third)

theorem pivotPosition_lt {elements : Array α} (long : 8 ≤ elements.size) :
    pivotPosition order elements < elements.size :=
  medianOfParts_lt _ (by omega) (by omega) (by omega) (by omega)

theorem filter_perm (test : α → Bool) (elements : List α) :
    ((elements.partition test).1 ++ (elements.partition test).2).Perm elements := by
  rw [List.partition_eq_filter_filter]
  exact List.filter_append_perm test elements

theorem partitionAt_perm (test : α → Bool) (position : Nat) (known : Bool) (elements : List α) :
    ((partitionAt test position known elements).1 ++ (partitionAt test position known elements).2).Perm elements := by
  have before := filter_perm test (elements.take position)
  have after := filter_perm test (elements.drop (position + 1))
  have pivot : (elements.drop position).take 1 ++ elements.drop (position + 1) = elements.drop position := by
    rw [← List.drop_drop, List.take_append_drop]
  have restored := before.append (after.append_left ((elements.drop position).take 1))
  rw [pivot, List.take_append_drop] at restored
  refine List.Perm.trans ?_ restored
  unfold partitionAt
  generalize (elements.drop position).take 1 = pivot
  obtain ⟨pass, fail⟩ := (elements.take position).partition test
  obtain ⟨passAfter, failAfter⟩ := (elements.drop (position + 1)).partition test
  cases known with
  | true =>
    calc (pass ++ pivot ++ passAfter ++ (fail ++ failAfter)).Perm
          (pass ++ (pivot ++ passAfter) ++ (fail ++ failAfter)) := .of_eq (by rw [List.append_assoc pass])
      List.Perm _ (pass ++ fail ++ (pivot ++ passAfter ++ failAfter)) := exchange_perm _ _ _ _
      _ = pass ++ fail ++ (pivot ++ (passAfter ++ failAfter)) := by rw [List.append_assoc pivot]
  | false =>
    calc (pass ++ passAfter ++ (fail ++ pivot ++ failAfter)).Perm
          (pass ++ (fail ++ pivot) ++ (passAfter ++ failAfter)) := exchange_perm _ _ _ _
      _ = pass ++ fail ++ (pivot ++ (passAfter ++ failAfter)) := by
          rw [← List.append_assoc pass, List.append_assoc _ pivot]

-- The two parts of a list, which are those of a test if elements are compared without contradiction.
structure Parted (order : α → α → Ordering) (test : α → Bool) (elements : List α) (parts : List α × List α) :
    Prop where
  perm : (parts.1 ++ parts.2).Perm elements
  passed : Weak order elements → parts.1 = elements.filter test
  failed : Weak order elements → parts.2 = elements.filter fun x => !test x

-- What is known of the pivot is what the test says of it.
theorem partitionAt_filter {test : α → Bool} {known : Bool} (found : elements[position]? = some pivot)
    (isKnown : test pivot = known) :
    partitionAt test position known elements = (elements.filter test, elements.filter fun x => !test x) := by
  obtain ⟨inside, here⟩ := List.getElem?_eq_some_iff.mp found
  have parts : elements = elements.take position ++ pivot :: elements.drop (position + 1) := by
    rw [← here, ← List.drop_eq_getElem_cons inside, List.take_append_drop]
  have single : (elements.drop position).take 1 = [pivot] := by
    rw [List.drop_eq_getElem_cons inside, here]
    rfl
  unfold partitionAt
  rw [single, List.partition_eq_filter_filter, List.partition_eq_filter_filter]
  rw [congrArg (List.filter test) parts, congrArg (List.filter fun x => !test x) parts, List.filter_append,
    List.filter_append]
  cases known with
  | true => simp [isKnown, Function.comp_def]
  | false => simp [isKnown, Function.comp_def]

theorem partitionAt_parted {test : α → Bool} {known : Bool} (found : elements[position]? = some pivot)
    (isKnown : isLess order pivot pivot = false → test pivot = known) :
    Parted order test elements (partitionAt test position known elements) := by
  have isPivot : pivot ∈ elements := List.mem_of_getElem? found
  have filtered : Weak order elements → partitionAt test position known elements =
      (elements.filter test, elements.filter fun x => !test x) := fun weak =>
    partitionAt_filter found (isKnown (isLess_eq_false.mpr fun less => weak.asymm _ isPivot _ isPivot less less))
  exact ⟨partitionAt_perm test position known elements, fun weak => congrArg Prod.fst (filtered weak),
    fun weak => congrArg Prod.snd (filtered weak)⟩

theorem sort_around (weak : Weak order elements) (isPivot : pivot ∈ elements) :
    sort order elements = sort order (elements.filter fun x => isLess order x pivot) ++
      sort order (elements.filter fun x => !isLess order x pivot) :=
  sort_partition weak fun _ first _ second less notLess => weak.lt_of_lt_of_le first isPivot second
    (isLess_iff.mp less) (isLess_eq_false.mp notLess)

-- If nothing is less than the pivot, what is equal to it is in order as it stands.
theorem sort_equal (weak : Weak order elements) (isPivot : pivot ∈ elements)
    (least : ∀ x ∈ elements, order x pivot ≠ .lt) :
    sort order elements = (elements.filter fun x => !isLess order pivot x) ++
      sort order (elements.filter fun x => isLess order pivot x) := by
  have apart : ∀ x ∈ elements, ∀ y ∈ elements, (!isLess order pivot x) = true → (!isLess order pivot y) = false →
      order x y = .lt := by
    intro x first y second notLess less
    rw [Bool.not_eq_true'] at notLess
    rw [Bool.not_eq_false'] at less
    exact weak.lt_of_le_of_lt first isPivot second (isLess_eq_false.mp notLess) (isLess_iff.mp less)
  have equal : InOrder order (elements.filter fun x => !isLess order pivot x) := by
    refine List.pairwise_of_forall_mem_list fun x first y second => ?_
    obtain ⟨isFirst, notLess⟩ := List.mem_filter.mp first
    rw [Bool.not_eq_true'] at notLess
    have isSecond := (List.mem_filter.mp second).1
    exact weak.trans y isSecond pivot isPivot x isFirst (least y isSecond) (isLess_eq_false.mp notLess)
  have parts := sort_partition weak apart
  rw [sort_inOrder equal] at parts
  simpa only [Bool.not_not] using parts

-- Elements none of which is less than the limit.
structure Above (order : α → α → Ordering) (limit : Option α) (elements : List α) : Prop where
  weak : Weak order (limit.toList ++ elements)
  least : ∀ b ∈ limit, ∀ x ∈ elements, order x b ≠ .lt

theorem above_none (weak : Weak order elements) : Above order none elements := ⟨weak, nofun⟩

theorem Above.filter (above : Above order limit elements) (test : α → Bool) :
    Above order limit (elements.filter test) where
  weak := above.weak.mono fun x listed => by
    rw [List.mem_append, List.mem_filter] at listed
    rw [List.mem_append]
    exact listed.imp_right And.left
  least b isLimit x listed := above.least b isLimit x (List.mem_filter.mp listed).1

theorem above_pivot (weak : Weak order elements) (isPivot : pivot ∈ elements) :
    Above order (some pivot) (elements.filter fun x => !isLess order x pivot) where
  weak := weak.mono fun x listed => by
    rcases List.mem_cons.mp listed with rfl | kept
    · exact isPivot
    · exact (List.mem_filter.mp kept).1
  least b isLimit x listed := by
    cases isLimit
    have kept := (List.mem_filter.mp listed).2
    rw [Bool.not_eq_true'] at kept
    exact isLess_eq_false.mp kept

-- The pivot is the least of all if nothing is less, or if the limit is not.
theorem Above.pivot_least {parts : List α × List α} (above : Above order limit elements) (isPivot : pivot ∈ elements)
    (parted : Parted order (fun x => isLess order x pivot) elements parts)
    (first : (limit.any fun b => !isLess order b pivot) = true ∨ parts.1.isEmpty = true) :
    ∀ x ∈ elements, order x pivot ≠ .lt := by
  intro x listed
  rcases first with isLimit | none
  · cases limit with
    | none => cases isLimit
    | some b =>
      have notLess : isLess order b pivot = false := (Bool.not_eq_true' _).mp isLimit
      exact above.weak.trans x (List.mem_cons_of_mem b listed) b List.mem_cons_self pivot
        (List.mem_cons_of_mem b isPivot) (above.least b rfl x listed) (isLess_eq_false.mp notLess)
  · intro less
    have kept : x ∈ parts.1 := by
      rw [parted.passed above.weak.right]
      exact List.mem_filter.mpr ⟨listed, isLess_iff.mpr less⟩
    rw [List.isEmpty_iff.mp none] at kept
    cases kept

-- A sort of elements above a limit.
def SortsAbove (order : α → α → Ordering) (limit : Option α) (elements : List α) (result : Option (List α)) : Prop :=
  Gives (Above order limit elements) result fun sorted =>
    sorted.Perm elements ∧ (Above order limit elements → sorted = sort order elements)

theorem sortsAbove_whole {result : Option (List α)}
    (gives : Gives (Weak order elements) result (SortedFor order elements)) : SortsAbove order limit elements result where
  good sorted found :=
    have good := gives.good sorted found
    ⟨good.perm, fun above => good.weak above.weak.right⟩
  given above := gives.given above.weak.right

theorem sortsAbove_least {parts : List α × List α} {result : Option (List α)} (isPivot : pivot ∈ elements)
    (least : Above order limit elements → ∀ x ∈ elements, order x pivot ≠ .lt)
    (parted : Parted order (fun x => !isLess order pivot x) elements parts)
    (later : SortsAbove order none parts.2 result) :
    SortsAbove order limit elements (do
      let sorted ← result
      return parts.1 ++ sorted) := by
  have inside : Above order limit elements → Above order none parts.2 := fun above =>
    above_none (above.weak.right.mono fun x listed => parted.perm.mem_iff.mp (List.mem_append_right _ listed))
  refine (later.mono inside).bind fun sorted same => .pure ⟨?_, fun above => ?_⟩
  · exact (same.1.append_left parts.1).trans parted.perm
  · have weak := above.weak.right
    rw [same.2 (inside above), sort_equal weak isPivot (least above), parted.passed weak, parted.failed weak]
    simp only [Bool.not_not]

theorem sortsAbove_parts {parts : List α × List α} {left right : Option (List α)} (isPivot : pivot ∈ elements)
    (parted : Parted order (fun x => isLess order x pivot) elements parts)
    (before : SortsAbove order limit parts.1 left) (after : SortsAbove order (some pivot) parts.2 right) :
    SortsAbove order limit elements (do
      let before ← left
      let after ← right
      return before ++ after) := by
  have first : Above order limit elements → Above order limit parts.1 := fun above => by
    rw [parted.passed above.weak.right]
    exact above.filter _
  have second : Above order limit elements → Above order (some pivot) parts.2 := fun above => by
    rw [parted.failed above.weak.right]
    exact above_pivot above.weak.right isPivot
  refine (before.mono first).bind fun lower same => (after.mono second).bind fun upper sameToo =>
    .pure ⟨?_, fun above => ?_⟩
  · exact (same.1.append sameToo.1).trans parted.perm
  · have weak := above.weak.right
    rw [same.2 (first above), sameToo.2 (second above), sort_around weak isPivot, parted.passed weak,
      parted.failed weak]

-- Induction on the turns. While they last, the parts around a pivot are sorted on their own; what has become short is
-- sorted as such, and what is left in the end is sorted by runs.
theorem sortAround_sorts (turns : Nat) (limit : Option α) (elements : List α) :
    SortsAbove order limit elements (sortAround order turns limit elements) := by
  induction turns generalizing limit elements with
  | zero =>
    unfold sortAround
    split
    · exact sortsAbove_whole (sortShort_sorted order elements)
    · refine sortsAbove_whole (sortByRuns_sorted ?_ elements)
      exact nofun
  | succ turns ih =>
    unfold sortAround
    split
    · exact sortsAbove_whole (sortShort_sorted order elements)
    · rename_i long
      have enough : 8 ≤ elements.toArray.size := by
        rw [List.size_toArray]
        unfold shortStretch at long
        omega
      have inside : pivotPosition order elements.toArray < elements.length := pivotPosition_lt enough
      dsimp only
      generalize pivotPosition order elements.toArray = position at inside
      obtain ⟨pivot, found⟩ : ∃ pivot, elements[position]? = some pivot := ⟨_, List.getElem?_eq_getElem inside⟩
      have isPivot : pivot ∈ elements := List.mem_of_getElem? found
      have lessParted : Parted order (fun x => isLess order x pivot) elements _ := partitionAt_parted found id
      have equalParted : Parted order (fun x => !isLess order pivot x) elements _ :=
        partitionAt_parted found (Bool.not_eq_true' _).mpr
      rw [found]
      dsimp only
      split
      · rename_i first
        rw [Bool.or_eq_true] at first
        exact sortsAbove_least isPivot (fun above => above.pivot_least isPivot lessParted first) equalParted (ih _ _)
      · exact sortsAbove_parts isPivot lessParted (ih _ _) (ih _ _)

theorem sortLong_sorted (order : α → α → Ordering) (elements : List α) :
    Gives (Weak order elements) (sortLong order elements) (SortedFor order elements) := by
  refine sortByRuns_sorted (fun _ run => ?_) elements
  have sorts : SortsAbove order none run _ := sortAround_sorts (2 * Nat.log2 run.length) none run
  exact ⟨fun sorted found => ⟨(sorts.good sorted found).1, fun weak => (sorts.good sorted found).2 (above_none weak)⟩,
    fun weak => sorts.given (above_none weak)⟩

end TreePath.Sorting
