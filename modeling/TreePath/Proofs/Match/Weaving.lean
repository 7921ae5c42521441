import TreePath.Match.Basic
namespace TreePath.Match

-- Takes elements from two lists in turn; what is left of the longer one follows.
def interleave {α : Type} : List α → List α → List α
  | [], others => others
  | x :: rest, [] => x :: rest
  | x :: rest, y :: others => x :: y :: interleave rest others

section
variable {α : Type} {xs ys : List α} {place i : Nat}

@[simp] theorem interleave_nil : interleave xs [] = xs := by
  cases xs <;> rfl

theorem interleave_cons {x : α} :
    interleave (x :: xs) ys = x :: interleave ys xs := by
  induction xs generalizing x ys with
  | nil => cases ys <;> simp [interleave]
  | cons x' xs ih =>
    cases ys with
    | nil => simp [interleave]
    | cons y ys => rw [interleave, ih, interleave]

@[simp] theorem length_interleave : (interleave xs ys).length = xs.length + ys.length := by
  induction xs generalizing ys with
  | nil => simp [interleave]
  | cons x rest ih =>
    cases ys with
    | nil => simp
    | cons y others => simp [interleave, ih]; omega

-- Every element stands behind all before it in its own list, and behind as many of the other list
-- as have had their turn.
theorem getElem?_interleave_left (ys : List α) (inside : i < xs.length) :
    (interleave xs ys)[i + min i ys.length]? = xs[i]? := by
  induction xs generalizing ys i with
  | nil => cases inside
  | cons x rest ih =>
    cases ys with
    | nil => simp
    | cons y others =>
      cases i with
      | zero => simp [interleave]
      | succ i =>
        have inside : i < rest.length := by simpa using inside
        have place : i + 1 + min (i + 1) (others.length + 1) = i + min i others.length + 2 := by omega
        rw [List.length_cons, place]
        simpa [interleave] using ih _ inside

-- The second list has its turns as the first one of a join that starts one place later.
theorem getElem?_interleave_right (xs : List α) (inside : i < ys.length) :
    (interleave xs ys)[i + min (i + 1) xs.length]? = ys[i]? := by
  cases xs with
  | nil => simp [interleave]
  | cons x rest =>
    have place : i + min (i + 1) (rest.length + 1) = i + min i rest.length + 1 := by omega
    rw [interleave_cons, List.length_cons, place, List.getElem?_cons_succ]
    exact getElem?_interleave_left rest inside

theorem interleave_places (inside : place < xs.length + ys.length) :
    (∃ i < xs.length, place = i + min i ys.length) ∨
      ∃ i < ys.length, place = i + min (i + 1) xs.length := by
  by_cases both : place < 2 * min xs.length ys.length
  · rcases Nat.mod_two_eq_zero_or_one place with even | odd
    · exact .inl ⟨place / 2, by omega, by omega⟩
    · exact .inr ⟨place / 2, by omega, by omega⟩
  · by_cases longer : ys.length < xs.length
    · exact .inl ⟨place - ys.length, by omega, by omega⟩
    · exact .inr ⟨place - xs.length, by omega, by omega⟩

theorem interleave_inj {xs' ys' : List α} (left : xs.length = xs'.length) (right : ys.length = ys'.length) :
    interleave xs ys = interleave xs' ys' ↔ xs = xs' ∧ ys = ys' := by
  refine ⟨fun same => ⟨?_, ?_⟩, fun ⟨same, same'⟩ => same ▸ same' ▸ rfl⟩
  · refine List.ext_getElem? fun i => ?_
    by_cases inside : i < xs.length
    · rw [← getElem?_interleave_left ys inside, same, right,
        getElem?_interleave_left _ (left ▸ inside)]
    · rw [List.getElem?_eq_none (by omega), List.getElem?_eq_none (by omega)]
  · refine List.ext_getElem? fun i => ?_
    by_cases inside : i < ys.length
    · rw [← getElem?_interleave_right xs inside, same, left,
        getElem?_interleave_right _ (right ▸ inside)]
    · rw [List.getElem?_eq_none (by omega), List.getElem?_eq_none (by omega)]

-- Which list has the first turn does not matter exactly if the shorter one begins the longer one.
theorem interleave_comm_iff (shorter : xs.length ≤ ys.length) :
    interleave xs ys = interleave ys xs ↔ xs <+: ys := by
  induction xs generalizing ys with
  | nil => simp [interleave]
  | cons x rest ih =>
    cases ys with
    | nil => cases shorter
    | cons y others =>
      rw [interleave, interleave, List.cons_prefix_cons, ← ih (by simpa using shorter)]
      constructor
      · intro same
        obtain ⟨first, same⟩ := List.cons.inj same
        exact ⟨first, (List.cons.inj same).2⟩
      · rintro ⟨rfl, same⟩
        rw [same]

end

variable {path : Path} {m context : Match} {link other : Link} {chain above others : List Link}
  {place i : Nat}

-- The last link of a chain, where it began, is selected from elsewhere once the chain goes on.
def rebasedIf (isLast : Prop) [Decidable isLast] (path : Path) (link : Link) : Link :=
  if isLast then { link with segment := path } else link

def rebased (path : Path) : List Link → List Link
  | [] => []
  | [link] => [{ link with segment := path }]
  | link :: next :: above => link :: rebased path (next :: above)

-- The chain that ends first is the one to be rebased.
def joined (path : Path) (chain context : List Link) : List Link :=
  if chain.length ≤ context.length then interleave (rebased path chain) context
  else interleave chain (rebased path context)

@[simp] theorem length_rebased : (rebased path chain).length = chain.length := by
  fun_induction rebased path chain with
  | case1 => rfl
  | case2 => rfl
  | case3 link next above ih => simpa using ih

@[simp] theorem length_joined :
    (joined path chain others).length = chain.length + others.length := by
  unfold joined
  split <;> simp

theorem getElem?_rebased : (rebased path chain)[i]? =
    chain[i]?.map (rebasedIf (i + 1 = chain.length) path) := by
  fun_induction rebased path chain generalizing i with
  | case1 => rfl
  | case2 link => cases i <;> simp [rebasedIf]
  | case3 link next above ih =>
    cases i with
    | zero => simp [rebasedIf]
    | succ i =>
      rw [List.getElem?_cons_succ, List.getElem?_cons_succ, ih]
      refine congrArg (Option.map · _) (funext fun link => ?_)
      simp [rebasedIf]

-- The links of either chain, as they stand in the join.
theorem getElem?_joined_chain (others : List Link) (here : chain[i]? = some link) :
    (joined path chain others)[i + min i others.length]? =
      some (rebasedIf (i + 1 = chain.length ∧ chain.length ≤ others.length) path link) := by
  have inside : i < chain.length := (List.getElem?_eq_some_iff.mp here).1
  unfold joined
  split
  · rename_i shorter
    rw [getElem?_interleave_left _ (by simpa using inside), getElem?_rebased, here]
    simp [rebasedIf, shorter]
  · rename_i longer
    have same := getElem?_interleave_left (rebased path others) inside
    rw [length_rebased] at same
    rw [same, here]
    simp [rebasedIf, longer]

theorem getElem?_joined_others (chain : List Link) (here : others[i]? = some link) :
    (joined path chain others)[i + min (i + 1) chain.length]? =
      some (rebasedIf (i + 1 = others.length ∧ others.length < chain.length) path link) := by
  have inside : i < others.length := (List.getElem?_eq_some_iff.mp here).1
  unfold joined
  split
  · rename_i shorter
    have same := getElem?_interleave_right (rebased path chain) inside
    rw [length_rebased] at same
    rw [same, here]
    simp [rebasedIf, Nat.not_lt.mpr shorter]
  · rename_i longer
    rw [getElem?_interleave_right _ (by simpa using inside), getElem?_rebased, here]
    simp [rebasedIf, Nat.not_le.mp longer]

-- The links of a join, each with its place.
theorem getElem?_joined {found : Link} : (joined path chain others)[place]? = some found ↔
    (∃ i link, chain[i]? = some link ∧ place = i + min i others.length ∧
      found = rebasedIf (i + 1 = chain.length ∧ chain.length ≤ others.length) path link) ∨
    ∃ i link, others[i]? = some link ∧ place = i + min (i + 1) chain.length ∧
      found = rebasedIf (i + 1 = others.length ∧ others.length < chain.length) path link := by
  constructor
  · intro here
    have inside : place < chain.length + others.length := by
      have bound := (List.getElem?_eq_some_iff.mp here).1
      rwa [length_joined] at bound
    rcases interleave_places inside with ⟨i, own, rfl⟩ | ⟨i, own, rfl⟩
    · rw [getElem?_joined_chain others (List.getElem?_eq_getElem own)] at here
      exact .inl ⟨i, _, List.getElem?_eq_getElem own, rfl, (Option.some.inj here).symm⟩
    · rw [getElem?_joined_others chain (List.getElem?_eq_getElem own)] at here
      exact .inr ⟨i, _, List.getElem?_eq_getElem own, rfl, (Option.some.inj here).symm⟩
  · rintro (⟨i, link, here, rfl, rfl⟩ | ⟨i, link, here, rfl, rfl⟩)
    · exact getElem?_joined_chain others here
    · exact getElem?_joined_others chain here

theorem weave_eq_joined :
    weave path link above other others = joined path (link :: above) (other :: others) := by
  fun_induction weave path link above other others with
  | case1 link other others => simp [joined, rebased, interleave]
  | case2 link next above other => simp [joined, rebased, interleave]
  | case3 link next above other next' others ih =>
    rw [ih]
    unfold joined
    by_cases shorter : above.length ≤ others.length
    · simp [shorter, rebased, interleave]
    · simp [shorter, rebased, interleave]

theorem links_inContext :
    (m.inContext path context).links = joined path m.links context.links := by
  have nonempty : joined path m.links context.links ≠ [] := by
    intro empty
    have := congrArg List.length empty
    simp [links] at this
  have woven : weave path m.link m.above context.link context.above =
      joined path m.links context.links := weave_eq_joined
  unfold inContext
  rw [woven]
  cases same : joined path m.links context.links with
  | nil => exact absurd same nonempty
  | cons link above => rfl

end TreePath.Match
