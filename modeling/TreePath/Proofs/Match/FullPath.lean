import TreePath.Proofs.Match.Trail
namespace TreePath.Match

variable {labels : Option String} {path left right : Path} {m : Match} {tree value middle : Value}
  {first location : Option Location} {chain above : List Link} {link : Link}

-- The path of a chain, nearest link first, as the full path of a match has it.
def chainPath (chain : List Link) : Path := Path.chain (chain.map Link.segment).reverse

theorem chainPath_cons : chainPath (link :: above) = (chainPath above).after link.segment := by
  simp [chainPath, Path.chain]

-- What is selected by its position from a value that is no array is that value, where it was.
theorem alone_whole (noArray : m.value.isArray = false) (filled : m.value.isNull = false) :
    Alone (Path.matchesFrom none (.index 0) m) m.location? m.value := by
  refine ⟨m.select (.index 0) m.value, ?_, rfl, rfl, ?_⟩
  · rw [Path.matchesFrom]
    unfold element
    split
    · rename_i null
      rw [null] at filled
      cases filled
    · rename_i items array
      rw [array] at noArray
      cases noArray
    · exact if_pos (.inl rfl)
  · rw [location?_select]
    cases m.location? with
    | none => rfl
    | some location => exact stepFrom_whole noArray

theorem after_parts (left : Path) (noThis : right ≠ .this) (noRoot : right ≠ .root) :
    (left = .this ∨ left = .root) ∧ left.after right = right ∨ left.after right = .child left right := by
  unfold Path.after
  split
  · exact .inl ⟨.inl rfl, rfl⟩
  · exact .inl ⟨.inr rfl, rfl⟩
  · exact absurd rfl noThis
  · exact absurd rfl noRoot
  · exact .inr rfl

-- What goes nowhere may be left out before a path that starts at the top of a tree, since it finds the
-- tree itself, and so does the start.
theorem alone_after (noThis : right ≠ .this) (noRoot : right ≠ .root)
    (reached : Alone (left.find labels tree) first middle)
    (goesOn : ∀ next : Match, next.isLabel = false → next.value = middle → next.location? = first →
      Alone (right.matchesFrom labels next) location value) :
    Alone ((left.after right).find labels tree) location value := by
  rcases after_parts left noThis noRoot with ⟨nowhere, same⟩ | same
  · rw [same]
    rcases nowhere with rfl | rfl
    all_goals
      obtain ⟨next, only, _, holds, isAt⟩ := reached
      cases only
      exact goesOn (start tree) rfl holds isAt
  · rw [same]
    exact alone_child reached goesOn

theorem located_cons {context : Link} : located (link :: context :: above) =
    (located (context :: above)).bind fun location => stepFrom (some context.value) location link := rfl

theorem wellFormed_of_grown (valid : tree.WellFormed) (grown : Grown tree (link :: above))
    (real : ∀ each ∈ link :: above, each.isMadeUp = false) : link.value.WellFormed := by
  obtain ⟨location, _, resolved⟩ := located_of_grown valid grown real
  exact valid.resolve resolved

-- The induction is on the chain: the path of the links above leads to the context, and the last segment
-- from there to the value.
theorem alone_chainPath (valid : tree.WellFormed) (grown : Grown tree chain)
    (real : ∀ link ∈ chain, link.isMadeUp = false) (last : chain.head? = some link) :
    Alone ((chainPath chain).find none tree) (located chain) link.value := by
  induction grown generalizing link with
  | this =>
    cases last
    exact ⟨_, rfl, rfl, rfl, rfl⟩
  | root =>
    cases last
    exact ⟨_, rfl, rfl, rfl, rfl⟩
  | @member context above members name part isObject present grown ih =>
    cases last
    have realAbove := fun link inside => real link (List.mem_cons_of_mem _ inside)
    have found : Value.lookup name members = some part :=
      (isObject ▸ wellFormed_of_grown valid grown realAbove).lookup_of_mem present
    rw [chainPath_cons]
    refine alone_after (by simp [Path.field]) (by simp [Path.field]) (ih realAbove rfl) fun next isReal holds isAt => ?_
    have leads : next.value.resolve? [.member name] = some part := by
      rw [holds, isObject, Value.resolve?_cons]
      exact congrArg (Option.bind · (·.resolve? [])) found
    have alone := alone_field leads
    rw [isAt] at alone
    rw [located_cons]
    cases place : located (context :: above) with
    | none => rwa [place] at alone
    | some location => rwa [place] at alone
  | @element context above items position part isArray present grown ih =>
    cases last
    have realAbove := fun link inside => real link (List.mem_cons_of_mem _ inside)
    have counts := (isArray ▸ wellFormed_of_grown valid grown realAbove).position_toInt present
    rw [chainPath_cons]
    refine alone_after (by simp) (by simp) (ih realAbove rfl) fun next isReal holds isAt => ?_
    have leads : next.value.resolve? [.element position] = some part := by
      rw [holds, isArray, Value.resolve?_cons]
      exact congrArg (Option.bind · (·.resolve? [])) present
    have alone := alone_index counts leads
    rw [isAt] at alone
    rw [located_cons, isArray]
    cases place : located (context :: above) with
    | none => rwa [place] at alone
    | some location => simpa [place, stepFrom, counts] using alone
  | @whole context above noArray filled grown ih =>
    cases last
    have realAbove := fun link inside => real link (List.mem_cons_of_mem _ inside)
    rw [chainPath_cons]
    refine alone_after (by simp) (by simp) (ih realAbove rfl) fun next isReal holds isAt => ?_
    have alone : Alone _ next.location? next.value :=
      alone_whole (by rw [holds, noArray]) (by rw [holds, filled])
    rw [isAt, holds] at alone
    rw [located_cons]
    cases place : located (context :: above) with
    | none => rwa [place] at alone
    | some location => rwa [Option.bind_some, stepFrom_whole noArray, ← place]
  | madeUp madeUp grown ih =>
    have real := real _ List.mem_cons_self
    rw [madeUp] at real
    cases real

-- The full path of a match finds that match and no other: the value that it has, where it is.
theorem find_fullPath {place : Location} (valid : tree.WellFormed) (found : m ∈ path.find none tree)
    (somewhere : m.location? = some place) :
    ∃ again, m.fullPath.find none tree = [again] ∧ again.value = m.value ∧ again.location? = some place := by
  have real := real_of_location? valid found somewhere
  obtain ⟨again, only, _, holds, isAt⟩ := alone_chainPath valid (grown_of_mem_find found) real rfl
  exact ⟨again, only, holds, by rw [isAt, ← location?_eq_located, somewhere]⟩

-- A match behind a step back to the parent, of a number read as the last element of an array.
theorem find_fullPath_parent :
    let tree := Value.object [("a", .array [.null, .object [("b", .boolean true), ("c", .integer 5)]])]
    let path := Path.child (.child (.child (.field "a") (.index (-1))) (.child (.field "b") .parent))
      (.union [.field "d", .child (.field "c") (.slice none none (some (-1)))])
    let place := [Step.member "a", .element 1, .member "c"]
    ∃ m again, tree.WellFormed ∧ m ∈ path.find none tree ∧ m.location? = some place ∧
      m.fullPath.text = "a.[1].c.[0]" ∧ m.fullPath.find none tree = [again] ∧ again.value = .integer 5 ∧
      again.location? = some place := by
  intro tree path place
  have valid : tree.WellFormed :=
    ⟨by simp [tree, Value.UniqueNames, Value.ItemsUnique, Value.MembersUnique],
      by simp [tree, Value.Sized, Value.ItemsSized, Value.MembersSized, Integer.highest]⟩
  have only : path.find none tree = [⟨⟨.integer 5, .index 0, false⟩,
      [⟨.integer 5, .field "c", false⟩,
        ⟨.object [("b", .boolean true), ("c", .integer 5)], .index 1, false⟩,
        ⟨.array [.null, .object [("b", .boolean true), ("c", .integer 5)]], .field "a", false⟩,
        ⟨tree, .this, false⟩]⟩] := rfl
  have found := only ▸ List.mem_singleton_self _
  obtain ⟨again, alone, holds, isAt⟩ := find_fullPath valid found (rfl : _ = some place)
  exact ⟨_, again, valid, found, rfl, by decide +kernel, alone, holds, isAt⟩

end TreePath.Match
