import TreePath.Proofs.Edit.Targets
import TreePath.Proofs.Match.Place
namespace TreePath

variable {σ : Type} {labels : Option String} {path : Path} {tree after value current : Value}
  {location place : Location} {target : Target} {targets rest : List Target} {state : σ}
  {replacement : Replacing → σ → Value × σ}

-- A write leaves a place that is not at or below it as it was, or of the same shape.
theorem Value.write?_notAbove (written : tree.write? location value = some after)
    (notAbove : ¬location <+: place) :
    after.resolve? place = tree.resolve? place ∨
      ∃ shape, (tree.resolve? place).bind shape? = some shape ∧
        (after.resolve? place).bind shape? = some shape := by
  by_cases above : place <+: location
  · have proper : place ≠ location := fun same => notAbove (same ▸ List.prefix_rfl)
    exact .inr (shape?_write?_above written above proper)
  · exact .inl (resolve?_write?_apart written notAbove above)

theorem Value.shape?_write?_notAbove (written : tree.write? location value = some after)
    (notAbove : ¬location <+: place) :
    (after.resolve? place).bind shape? = (tree.resolve? place).bind shape? := by
  obtain same | ⟨shape, before, later⟩ := write?_notAbove written notAbove
  · rw [same]
  · rw [before, later]

theorem Value.isSome_write?_notAbove (written : tree.write? location value = some after)
    (notAbove : ¬location <+: place) :
    (after.resolve? place).isSome = (tree.resolve? place).isSome := by
  obtain same | ⟨shape, before, later⟩ := write?_notAbove written notAbove
  · rw [same]
  · obtain ⟨old, reached, _⟩ := Option.bind_eq_some_iff.mp before
    obtain ⟨new, kept, _⟩ := Option.bind_eq_some_iff.mp later
    rw [reached, kept, Option.isSome_some, Option.isSome_some]

-- One turn of a run at a place that is there.
theorem replaceTargets_cons (replacement : Replacing → σ → Value × σ) (rest : List Target) (state : σ)
    (present : tree.resolve? target.location = some current) :
    ∃ after, tree.write? target.location (replacement ⟨current, tree, target.path⟩ state).1 = some after ∧
      replaceTargets replacement (target :: rest) tree state =
        replaceTargets replacement rest after (replacement ⟨current, tree, target.path⟩ state).2 := by
  obtain ⟨after, written⟩ := Value.write?_isSome
    (replacement ⟨current, tree, target.path⟩ state).1 present
  refine ⟨after, written, ?_⟩
  simp only [replaceTargets, present, written, Option.getD_some]

theorem replaceTargets_cons_missing (missing : tree.resolve? target.location = none) :
    replaceTargets replacement (target :: rest) tree state =
      replaceTargets replacement rest tree state := by
  simp only [replaceTargets, missing]

-- Whatever a single write at a harmless location keeps, a run over harmless targets keeps.
theorem replaceTargets_keeps {α : Type} (observe : Value → α) (harmless : Location → Prop)
    (kept : ∀ location tree value after, Value.write? tree location value = some after →
      harmless location → observe after = observe tree)
    (safe : ∀ target ∈ targets, harmless target.location) :
    observe (replaceTargets replacement targets tree state).1 = observe tree := by
  induction targets generalizing tree state with
  | nil => rfl
  | cons target rest ih =>
    have restSafe : ∀ later ∈ rest, harmless later.location :=
      fun later inside => safe later (List.mem_cons_of_mem _ inside)
    cases present : tree.resolve? target.location with
    | none =>
      rw [replaceTargets_cons_missing present]
      exact ih restSafe
    | some current =>
      obtain ⟨after, written, turn⟩ := replaceTargets_cons replacement rest state present
      rw [turn, ih restSafe]
      exact kept _ _ _ _ written (safe target List.mem_cons_self)

theorem replaceTargets_apart
    (apart : ∀ target ∈ targets, ¬target.location <+: place ∧ ¬place <+: target.location) :
    (replaceTargets replacement targets tree state).1.resolve? place = tree.resolve? place :=
  replaceTargets_keeps (Value.resolve? · place)
    (fun location => ¬location <+: place ∧ ¬place <+: location)
    (fun _ _ _ _ written apart => Value.resolve?_write?_apart written apart.1 apart.2) apart

theorem replaceTargets_shape (notAbove : ∀ target ∈ targets, ¬target.location <+: place) :
    ((replaceTargets replacement targets tree state).1.resolve? place).bind Value.shape? =
      (tree.resolve? place).bind Value.shape? :=
  replaceTargets_keeps (fun tree => (tree.resolve? place).bind Value.shape?)
    (fun location => ¬location <+: place)
    (fun _ _ _ _ written notAbove => Value.shape?_write?_notAbove written notAbove) notAbove

-- The induction is on the targets. Up to the target in question nothing is written at or above it,
-- so that it is still there; from then on nothing is written at, above or below it.
theorem replaceTargets_value (inOrder : targets.Pairwise fun first later => ¬first.location <+: later.location)
    (outermost : ∀ other ∈ targets, other.location <+: target.location → other.location = target.location)
    (listed : target ∈ targets) (present : (tree.resolve? target.location).isSome) :
    (replaceTargets (fun _ state => (value, state)) targets tree state).1.resolve? target.location =
      some value := by
  induction targets generalizing tree with
  | nil => cases listed
  | cons first rest ih =>
    obtain ⟨firstBefore, restInOrder⟩ := List.pairwise_cons.mp inOrder
    rcases List.mem_cons.mp listed with rfl | later
    · obtain ⟨current, reached⟩ := Option.isSome_iff_exists.mp present
      obtain ⟨after, written, turn⟩ := replaceTargets_cons (fun _ state => (value, state)) rest state reached
      rw [turn, replaceTargets_apart]
      · exact Value.resolve?_write?_self written
      · intro other inside
        have notBelow := firstBefore other inside
        refine ⟨fun isAbove => ?_, notBelow⟩
        exact notBelow (outermost other (List.mem_cons_of_mem _ inside) isAbove ▸ List.prefix_rfl)
    · have restOutermost := fun other inside => outermost other (List.mem_cons_of_mem first inside)
      cases reached : tree.resolve? first.location with
      | none =>
        rw [replaceTargets_cons_missing reached]
        exact ih restInOrder restOutermost later present
      | some current =>
        obtain ⟨after, written, turn⟩ := replaceTargets_cons (fun _ state => (value, state)) rest state
          reached
        rw [turn]
        refine ih restInOrder restOutermost later ?_
        rw [Value.isSome_write?_notAbove written (firstBefore target later)]
        exact present

-- Of the locations a path finds, those that are not below another one.
def Path.FindsOutermost (labels : Option String) (path : Path) (tree : Value) (location : Location) :
    Prop :=
  path.Finds labels tree location ∧
    ∀ other, path.Finds labels tree other → other <+: location → other = location

theorem finds_resolves (valid : tree.WellFormed) (found : path.Finds labels tree location) :
    ∃ part, tree.resolve? location = some part := by
  obtain ⟨m, present, somewhere⟩ := found
  exact ⟨m.value, Match.resolve?_location? valid present somewhere⟩

theorem outermost_above {location : Location} (found : path.Finds labels tree location) :
    ∃ outer, path.FindsOutermost labels tree outer ∧ outer <+: location := by
  by_cases outermost : ∀ other, path.Finds labels tree other → other <+: location → other = location
  · exact ⟨location, ⟨found, outermost⟩, List.prefix_rfl⟩
  · obtain ⟨other, foundOther, above, differs⟩ : ∃ other, path.Finds labels tree other ∧
        other <+: location ∧ other ≠ location := by simpa using outermost
    have shorter : other.length < location.length :=
      Nat.lt_of_le_of_ne above.length_le fun same => differs (above.eq_of_length same)
    obtain ⟨outer, isOutermost, outerAbove⟩ := outermost_above foundOther
    exact ⟨outer, isOutermost, outerAbove.trans above⟩
termination_by location.length

-- The outermost places a path finds hold the value afterwards; what lies neither at or below nor
-- above one of them is as it was; and what lies above one of them has kept its kind, and its names
-- in their order or its length.
theorem update_exact (valid : tree.WellFormed) :
    (∀ location, path.FindsOutermost labels tree location →
      (path.update labels tree value).resolve? location = some value) ∧
    (∀ place, (∀ location, path.FindsOutermost labels tree location →
        ¬location <+: place ∧ ¬place <+: location) →
      (path.update labels tree value).resolve? place = tree.resolve? place) ∧
    (∀ location place, path.FindsOutermost labels tree location → place <+: location →
      place ≠ location → ∃ shape, (tree.resolve? place).bind Value.shape? = some shape ∧
        ((path.update labels tree value).resolve? place).bind Value.shape? = some shape) := by
  have finds : ∀ target ∈ path.targets labels tree, path.Finds labels tree target.location :=
    fun target listed => mem_targets.mp (List.mem_map_of_mem listed)
  refine ⟨?_, ?_, ?_⟩
  · rintro location ⟨found, outermost⟩
    obtain ⟨target, listed, rfl⟩ := List.mem_map.mp (mem_targets.mpr found)
    obtain ⟨part, present⟩ := finds_resolves valid found
    exact replaceTargets_value targets_pairwise
      (fun other inside above => outermost _ (finds other inside) above) listed (by simp [present])
  · intro place apart
    refine replaceTargets_apart fun target listed => ?_
    obtain ⟨outer, isOutermost, outerAbove⟩ := outermost_above (finds target listed)
    obtain ⟨notBelow, notAbove⟩ := apart outer isOutermost
    refine ⟨fun above => notBelow (outerAbove.trans above), fun below => ?_⟩
    rcases List.prefix_or_prefix_of_prefix outerAbove below with h | h
    · exact notBelow h
    · exact notAbove h
  · rintro location place ⟨found, outermost⟩ above proper
    obtain ⟨part, present⟩ := finds_resolves valid found
    obtain ⟨shape, shaped⟩ := Value.shape?_of_prefix above proper present
    refine ⟨shape, shaped, ?_⟩
    rw [Path.update, Path.updateWith, replaceTargets_shape, shaped]
    intro target listed isAbove
    have same := outermost _ (finds target listed) (isAbove.trans above)
    rw [same] at isAbove
    exact proper (above.eq_of_length (Nat.le_antisymm above.length_le isAbove.length_le))

-- One of the two places found lies within the other.
theorem update_exact_nested :
    let tree := Value.object [("a", .array [.null, .object [("b", .integer 2)]]), ("c", .boolean true)]
    let path := Path.union [.child (.child (.field "a") (.index (-1))) (.field "b"),
      .child (.field "a") (.index 1)]
    let location := [Step.member "a", .element 1]
    tree.WellFormed ∧ path.FindsOutermost none tree location ∧
      (path.update none tree (.string "x")).resolve? location = some (.string "x") := by
  intro tree path location
  have valid : tree.WellFormed :=
    ⟨by simp [tree, Value.UniqueNames, Value.ItemsUnique, Value.MembersUnique],
      by simp [tree, Value.Sized, Value.ItemsSized, Value.MembersSized, Integer.highest]⟩
  have places : (path.targets none tree).map Target.location = [location ++ [.member "b"], location] := by
    decide +kernel
  have outermost : path.FindsOutermost none tree location := by
    have listed : location ∈ (path.targets none tree).map Target.location := by
      rw [places]
      exact List.mem_cons_of_mem _ List.mem_cons_self
    have isFound : path.Finds none tree location := mem_targets.mp listed
    refine ⟨isFound, fun other found above => ?_⟩
    rw [← mem_targets, places] at found
    rcases List.mem_cons.mp found with rfl | later
    · exact absurd above.length_le (by simp)
    · exact List.mem_singleton.mp later
  exact ⟨valid, outermost, (update_exact valid).1 location outermost⟩

end TreePath
