import TreePath.Path.Grammar
import TreePath.Proofs.Edit.Replacement
import TreePath.Proofs.Match.Steady
namespace TreePath

variable {labels : Option String} {path : Path} {tree value : Value} {location : Location} {targets : List Target}

open Value

theorem replaceTargets_wellFormed (valid : tree.WellFormed) (validValue : value.WellFormed) :
    (replaceTargets (fun _ state => (value, state)) targets tree ()).1.WellFormed := by
  induction targets generalizing tree with
  | nil => exact valid
  | cons target rest ih =>
    cases reached : tree.resolve? target.location with
    | none =>
      rw [replaceTargets_cons_missing reached]
      exact ih valid
    | some current =>
      obtain ⟨after, written, turn⟩ := replaceTargets_cons (fun _ state => (value, state)) rest () reached
      rw [turn]
      exact ih (valid.write validValue written)

theorem update_wellFormed (valid : tree.WellFormed) (validValue : value.WellFormed) :
    (path.update labels tree value).WellFormed :=
  replaceTargets_wellFormed valid validValue

theorem finds_of_target {target : Target} (listed : target ∈ path.targets labels tree) :
    path.Finds labels tree target.location :=
  mem_targets.mp (List.mem_map_of_mem listed)

theorem update_rewritten (valid : tree.WellFormed) :
    Rewritten tree (path.update labels tree value) (path.Finds labels tree) where
  present _ found := finds_resolves valid found
  apart _ apart := replaceTargets_apart fun _ listed => apart _ (finds_of_target listed)
  shape _ outside := replaceTargets_shape fun _ listed => outside _ (finds_of_target listed)

theorem update_outermost (valid : tree.WellFormed) (outermost : path.FindsOutermost labels tree location) :
    (path.update labels tree value).resolve? location = some value := by
  obtain ⟨target, listed, rfl⟩ := List.mem_map.mp (mem_targets.mpr outermost.1)
  obtain ⟨part, present⟩ := finds_resolves valid outermost.1
  exact replaceTargets_value targets_pairwise
    (fun other inside above => outermost.2 _ (finds_of_target inside) above) listed (by simp [present])

-- An update changes nothing if and only if the value is where it is written already.
theorem update_eq_self_iff (valid : tree.WellFormed) : path.update labels tree value = tree ↔
    ∀ location, path.FindsOutermost labels tree location → tree.resolve? location = some value := by
  constructor
  · intro same location outermost
    have written : (path.update labels tree value).resolve? location = some value := update_outermost valid outermost
    rwa [same] at written
  · intro already
    refine (eq_of_agree valid fun place => ?_).symm
    by_cases within : ∃ location, path.Finds labels tree location ∧ location <+: place
    · obtain ⟨location, found, above⟩ := within
      obtain ⟨outer, outermost, upper⟩ := outermost_above found
      obtain ⟨rest, rfl⟩ := upper.trans above
      rw [resolve?_append, resolve?_append, already outer outermost, update_outermost valid outermost]
      exact .inl rfl
    · have outside : ∀ location, path.Finds labels tree location → ¬location <+: place :=
        fun location found above => within ⟨location, found, above⟩
      by_cases further : ∃ location, path.Finds labels tree location ∧ place <+: location
      · obtain ⟨location, found, below⟩ := further
        obtain ⟨part, present⟩ := finds_resolves valid found
        have proper : place ≠ location := fun same => outside location found (same ▸ List.prefix_rfl)
        obtain ⟨shape, shaped⟩ := shape?_of_prefix below proper present
        exact .inr ⟨shape, shaped, ((update_rewritten valid).shape place outside).trans shaped⟩
      · exact .inl ((update_rewritten valid).apart place fun location found =>
          ⟨outside location found, fun below => further ⟨location, found, below⟩⟩)

-- The outermost places that a steady path finds after an update are among those that it found before.
theorem outermost_update (direct : path.Direct true) (steady : path.Steady (!value.isArray)) (valid : tree.WellFormed)
    (validValue : value.WellFormed) (outermost : path.FindsOutermost none (path.update none tree value) location) :
    path.FindsOutermost none tree location := by
  have rewritten : Rewritten tree (path.update none tree value) (path.Finds none tree) := update_rewritten valid
  have validAfter : (path.update none tree value).WellFormed := update_wellFormed valid validValue
  have selects : path.Selects (path.update none tree value) location :=
    (finds_iff_selects direct validAfter).mp outermost.1
  by_cases within : ∃ place, path.Finds none tree place ∧ place <+: location
  · obtain ⟨place, found, above⟩ := within
    obtain ⟨outer, isOutermost, upper⟩ := outermost_above found
    have shorter := upper.trans above
    by_cases same : outer = location
    · exact same ▸ isOutermost
    · -- The value has something below it, so that it is read as one element unless it is an array.
      have written : (path.update none tree value).resolve? outer = some value := update_outermost valid isOutermost
      obtain ⟨part, present⟩ := selects.resolves
      obtain ⟨shape, shaped⟩ := shape?_of_prefix shorter same present
      rw [written, Option.bind_some] at shaped
      have single : (!value.isArray) = true → value.IsSingle :=
        fun noArray => ⟨by simpa using noArray, isNull_of_shape shaped⟩
      have still := selects_after steady ((finds_iff_selects direct valid).mp isOutermost.1) selects
        (rewritten.resembles_at isOutermost.2 written single) (.inl shorter)
      exact absurd (outermost.2 outer ((finds_iff_selects direct validAfter).mpr still) shorter) same
  · have covers : path.Covers tree (path.Finds none tree) :=
      fun place found => ⟨place, List.prefix_rfl, (finds_iff_selects direct valid).mp found⟩
    have before := selects_before steady rewritten covers
      (fun place found above => within ⟨place, found, above⟩) selects
    exact absurd ⟨location, (finds_iff_selects direct valid).mpr before, List.prefix_rfl⟩ within

-- The path is followed anew in the changed tree, so that a second update changes nothing only if what it finds
-- outermost holds the value already. Steady paths find nothing else.
theorem update_again (valid : tree.WellFormed) (validValue : value.WellFormed) :
    (path.update labels (path.update labels tree value) value = path.update labels tree value ↔
      ∀ location, path.FindsOutermost labels (path.update labels tree value) location →
        (path.update labels tree value).resolve? location = some value) ∧
    (path.Direct true → path.Steady (!value.isArray) →
      path.update none (path.update none tree value) value = path.update none tree value) := by
  refine ⟨update_eq_self_iff (update_wellFormed valid validValue), fun direct steady => ?_⟩
  refine (update_eq_self_iff (update_wellFormed valid validValue)).mpr fun location outermost => ?_
  exact update_outermost valid (outermost_update direct steady valid validValue outermost)

-- The filter is in front of the `..`; of the two places found, one is within the other.
theorem update_again_filtered :
    let tree := Value.object [("a", .array [.object [("x", .null), ("b", .object [("b", .integer 1)])],
      .object [("b", .integer 2)]])]
    let path := Path.descendants (.child (.child .root (.field "a")) (.filter [.present (.field "x")])) (.field "b")
    let value := Value.object [("c", .integer 0)]
    let place := [Step.member "a", .element 0, .member "b"]
    tree.WellFormed ∧ value.WellFormed ∧ path.Direct true ∧ path.Steady (!value.isArray) ∧
      (path.targets none tree).map Target.location = [place ++ [.member "b"], place] ∧
      path.update none (path.update none tree value) value = path.update none tree value := by
  intro tree path value place
  have valid : tree.WellFormed :=
    ⟨by simp [tree, UniqueNames, ItemsUnique, MembersUnique],
      by simp [tree, Sized, ItemsSized, MembersSized, Integer.highest]⟩
  have validValue : value.WellFormed :=
    ⟨by simp [value, UniqueNames, MembersUnique], by simp [value, Sized, MembersSized]⟩
  have direct : path.Direct true :=
    .descendants (.child (.child .root (.fields ["a"])) (.filter rfl)) (.fields ["b"])
  have steady : path.Steady true :=
    .descendants (.unforked (.child (.child (.segment .root) (.segment (.fields ["a"]))) (.filter _)))
      (.segment (.fields ["b"]))
  have places : (path.targets none tree).map Target.location = [place ++ [.member "b"], place] := by decide +kernel
  have again := (@update_again none path tree value valid validValue).2 direct steady
  exact ⟨valid, validValue, direct, steady, places, again⟩

-- An index reads what is no array as its one element, and then the array that is written there.
theorem update_again_single :
    let path := Path.index 0
    let value := Value.array [.integer 7]
    Path.ofText .extended "[0]" = .ok path ∧ path.update none (.integer 5) value = value ∧
      path.update none (path.update none (.integer 5) value) value ≠ path.update none (.integer 5) value := by
  intro path value
  have once : path.update none (.integer 5) value = value := rfl
  have again : path.update none value value = .array [value] := rfl
  refine ⟨rfl, once, ?_⟩
  rw [once, again]
  exact nofun

end TreePath
