import TreePath.Proofs.Match.Nesting
namespace TreePath.Match

variable {path : Path} {m context spliced : Match} {link next : Link} {above others : List Link} {calls : Nat}

-- A match that has a chain of its own is put under the context by putting the context under that chain: the two
-- change places from call to call, until the one that is to go below has no chain.
inductive Splices (path : Path) : Nat → Match → Match → Match → Prop where
  | last (link : Link) (context : Match) :
      Splices path 1 ⟨link, []⟩ context ⟨{ link with segment := path }, context.links⟩
  | swap (calls : Nat) (link next : Link) (above : List Link) (context spliced : Match)
      (inner : Splices path calls context ⟨next, above⟩ spliced) :
      Splices path (calls + 1) ⟨link, next :: above⟩ context ⟨link, spliced.links⟩

theorem inContext_last : (Match.mk link []).inContext path context =
    ⟨{ link with segment := path }, context.links⟩ :=
  rfl

theorem inContext_swap : (Match.mk link (next :: above)).inContext path context =
    ⟨link, (context.inContext path ⟨next, above⟩).links⟩ := by
  rw [ext_links, links_inContext]
  change joined path (link :: next :: above) context.links = link :: links _
  rw [joined_cons (List.cons_ne_nil _ _), links_inContext]
  rfl

-- How many calls there are: the shorter chain ends first, and the match has its turn before the context.
def callsFor (m context : Match) : Nat := min (2 * m.above.length) (2 * context.above.length + 1) + 1

theorem callsFor_swap : callsFor ⟨link, next :: above⟩ context = callsFor context ⟨next, above⟩ + 1 := by
  simp only [callsFor, List.length_cons]
  omega

-- Each call takes a link off one of the two chains, so together they get shorter.
theorem splices_inContext (path : Path) (m context : Match) :
    Splices path (callsFor m context) m context (m.inContext path context) := by
  obtain ⟨link, above⟩ := m
  cases above with
  | nil =>
    have single : callsFor ⟨link, []⟩ context = 1 := by simp [callsFor]
    rw [single, inContext_last]
    exact .last link context
  | cons next above =>
    rw [callsFor_swap, inContext_swap]
    exact .swap _ _ _ _ _ _ (splices_inContext path context ⟨next, above⟩)
termination_by m.above.length + context.above.length
decreasing_by
  simp only [List.length_cons]
  omega

theorem splices_iff : Splices path calls m context spliced ↔
    calls = callsFor m context ∧ spliced = m.inContext path context := by
  constructor
  · intro splices
    induction splices with
    | last link context =>
      refine ⟨?_, inContext_last.symm⟩
      simp [callsFor]
    | swap calls link next above context spliced inner ih =>
      obtain ⟨rfl, rfl⟩ := ih
      exact ⟨callsFor_swap.symm, inContext_swap.symm⟩
  · rintro ⟨rfl, rfl⟩
    exact splices_inContext path m context

-- Elements of two lists in turn up to where one of them ends, and then those that are left of the other.
def alternate {α : Type} (xs ys : List α) : List α :=
  (xs.zipWith (fun x y => [x, y]) ys).flatten ++ xs.drop ys.length ++ ys.drop xs.length

theorem interleave_eq_alternate {α : Type} (xs ys : List α) : interleave xs ys = alternate xs ys := by
  fun_induction interleave xs ys with
  | case1 others => simp [alternate]
  | case2 x rest => simp [alternate]
  | case3 x rest y others ih => simp [alternate, ih]

theorem map_alternate {α β : Type} (f : α → β) (xs ys : List α) :
    (alternate xs ys).map f = alternate (xs.map f) (ys.map f) := by
  simp [alternate, List.map_flatten, List.map_zipWith, List.zipWith_map, List.map_drop]

-- The link as it is selected from elsewhere: its value, and whether it is a label, stay.
def reselected (path : Path) (link : Link) : Link := { link with segment := path }

-- The links of a match. If its chain ends first, the last one is reselected.
def linksIf (endsFirst : Prop) [Decidable endsFirst] (path : Path) (m : Match) : List Link :=
  if endsFirst then m.links.modify m.above.length (reselected path) else m.links

theorem rebased_eq_modify (path : Path) (link : Link) (above : List Link) :
    rebased path (link :: above) = (link :: above).modify above.length (reselected path) := by
  induction above generalizing link with
  | nil => rfl
  | cons next above ih =>
    rw [rebased, ih]
    rfl

theorem map_modify_reselected (path : Path) (chain : List Link) (i : Nat) :
    (chain.modify i (reselected path)).map Link.value = chain.map Link.value := by
  induction chain generalizing i with
  | nil => simp
  | cons link chain ih => cases i <;> simp [ih, reselected]

theorem map_value_linksIf (endsFirst : Prop) [Decidable endsFirst] (path : Path) (m : Match) :
    (m.linksIf endsFirst path).map Link.value = m.links.map Link.value := by
  unfold linksIf
  split
  · exact map_modify_reselected path m.links m.above.length
  · rfl

theorem links_inContext_alternate (path : Path) (m context : Match) :
    (m.inContext path context).links =
      alternate (m.linksIf (m.above.length ≤ context.above.length) path)
        (context.linksIf (context.above.length < m.above.length) path) := by
  obtain ⟨link, above⟩ := m
  obtain ⟨other, others⟩ := context
  rw [links_inContext, joined, ← interleave_eq_alternate]
  simp only [links, linksIf, List.length_cons, Nat.add_le_add_iff_right, rebased_eq_modify]
  by_cases shorter : above.length ≤ others.length
  · rw [if_pos shorter, if_pos shorter, if_neg (Nat.not_lt.mpr shorter)]
  · rw [if_neg shorter, if_neg shorter, if_pos (Nat.not_le.mp shorter)]

theorem isLabel_inContext (path : Path) (m context : Match) : (m.inContext path context).isLabel = m.isLabel := by
  obtain ⟨link, above⟩ := m
  cases above with
  | nil => rfl
  | cons next above =>
    rw [inContext_swap]
    rfl

-- Putting a match under a context ends, after so many calls, with the links of both in turn: none of them is lost
-- and none comes twice. All are as they were but the last one of the chain that ends first, which is selected by
-- the path.
theorem inContext_alternates (path : Path) (m context : Match) :
    let n := m.above.length
    let k := context.above.length
    let result := m.inContext path context
    (∀ calls spliced, Splices path calls m context spliced ↔
      calls = min (2 * n) (2 * k + 1) + 1 ∧ spliced = result) ∧
    result.links.length = n + k + 2 ∧
    result.links.map Link.value = alternate (m.links.map Link.value) (context.links.map Link.value) ∧
    result.links = alternate (m.linksIf (n ≤ k) path) (context.linksIf (k < n) path) ∧
    result.isLabel = m.isLabel := by
  intro n k result
  have links : result.links = alternate (m.linksIf (n ≤ k) path) (context.linksIf (k < n) path) :=
    links_inContext_alternate path m context
  have length : result.links.length = n + k + 2 := by
    rw [links_inContext, length_joined]
    simp only [Match.links, List.length_cons]
    omega
  have values : result.links.map Link.value =
      alternate (m.links.map Link.value) (context.links.map Link.value) := by
    rw [links, map_alternate, map_value_linksIf, map_value_linksIf]
  exact ⟨fun _ _ => splices_iff, length, values, links, isLabel_inContext path m context⟩

end TreePath.Match
