import TreePath.Proofs.Edit.Growth
namespace TreePath

variable {labels : Option String} {path left right : Path} {tree before middle after part changed value : Value}
  {location inner : Location} {members : List (String × Value)} {name : String} {index : Int64}
  {trail : Option Location} {m : Match}

open Value

-- All that was in the tree and is neither at or below nor above the location is there as it was.
def Value.Spares (before after : Value) (location : Location) : Prop :=
  ∀ place part, before.resolve? place = some part → ¬place <+: location → ¬location <+: place →
    after.resolve? place = some part

theorem Value.spares_step {step : Step}
    (kept : ∀ other part, other ≠ step → tree.child? other = some part → after.child? other = some part) :
    Spares tree after [step] := by
  intro place part found notAbove notBelow
  cases place with
  | nil => exact absurd List.nil_prefix notAbove
  | cons first rest =>
    have apart : first ≠ step := by
      rintro rfl
      exact notBelow (List.cons_prefix_cons.mpr ⟨rfl, List.nil_prefix⟩)
    rw [resolve?_cons] at found ⊢
    obtain ⟨child, leads, found⟩ := Option.bind_eq_some_iff.mp found
    rw [kept first child apart leads, Option.bind_some, found]

theorem Value.Grows.spares (outer : Grows before middle location)
    (leads : middle.resolve? location = some part) (inside : Spares part changed inner)
    (written : middle.write? location changed = some after) : Spares before after (location ++ inner) := by
  intro place found here notAbove notBelow
  by_cases isBelow : location <+: place
  · obtain ⟨suffix, rfl⟩ := isBelow
    rw [resolve?_write?_below written]
    refine inside _ _ (outer.inside leads here) ?_ ?_
    · exact fun above => notAbove ((List.prefix_append_right_inj location).mpr above)
    · exact fun below => notBelow ((List.prefix_append_right_inj location).mpr below)
  · have apart : ¬place <+: location := fun above => notAbove (above.trans (List.prefix_append _ _))
    rw [resolve?_write?_apart written isBelow apart]
    exact outer _ _ here fun above => absurd above apart

-- What creating along a path comes to.
inductive Created (trail : Option Location) (tree value : Value) : Attempt Unit → Prop where
  | refused (error : CreateError) (filled : tree.isBlank = false) : Created trail tree value (tree, .error error)
  | unplaced (after : Value) (varies : trail = none) : Created trail tree value (after, .ok ())
  | placed (after : Value) (location : Location) (written : after.resolve? location = some value)
      (fixed : ∀ steps ∈ trail, location = steps) (spares : Spares tree after location) :
      Created trail tree value (after, .ok ())

theorem created_here : Created (some []) tree value (value, .ok ()) := by
  refine .placed value [] rfl (fun steps here => ?_) fun place part _ _ notBelow => ?_
  · cases here
    rfl
  · exact absurd List.nil_prefix notBelow

theorem created_field :
    Created (some [.member name]) tree value (Path.create labels value (.fields [name]) tree) := by
  unfold Path.create
  cases made : tree.asMembers with
  | error error => exact .refused error (asMembers_error made)
  | ok members =>
    refine .placed _ [.member name] ?_ ?_ (spares_step ?_)
    · simp [setMembers, resolve?_cons, child?, lookup_insertMember_self]
    · rintro steps ⟨⟩
      rfl
    · intro other part apart found
      obtain ⟨key, rfl, present⟩ := asMembers_child made found
      have ne : key ≠ name := fun same => apart (congrArg Step.member same)
      simp only [setMembers, child?, lookup_insertMember_ne ne]
      exact present

theorem created_index :
    Created (Path.index index).trail? tree value (Path.create labels value (.index index) tree) := by
  unfold Path.create
  cases made : tree.asItems with
  | error error => exact .refused error (asItems_error made)
  | ok items =>
    cases placed : placeIndex index items with
    | mk grown found =>
    dsimp only
    rw [placed]
    cases found with
    | none =>
      have back := placeIndex_none placed
      exact .unplaced _ (if_neg (by omega))
    | some position =>
      have inside : position < grown.length := by
        rcases placeIndex_some placed with ⟨part, present, rfl⟩ | ⟨_, present⟩
        · exact (List.getElem?_eq_some_iff.mp present).1
        · exact (List.getElem?_eq_some_iff.mp present).1
      refine .placed _ [.element position] ?_ (placeIndex_trail placed) (spares_step ?_)
      · simp [resolve?_cons, child?, inside]
      · intro other part apart found
        obtain ⟨other, rfl, present⟩ := asItems_child made found
        have ne : position ≠ other := fun same => apart (congrArg Step.element same.symm)
        simp only [child?, List.getElem?_set_ne ne]
        exact placeIndex_keeps placed present

theorem created_child (first : ∀ tree, Reached left.trail? tree (left.reach labels tree))
    (second : ∀ tree, Created right.trail? tree value (right.create labels value tree)) :
    Created (Path.child left right).trail? tree value (Path.create labels value (.child left right) tree) := by
  unfold Path.create
  have outer := first tree
  generalize left.reach labels tree = attempt at outer ⊢
  cases outer with
  | refused error filled => exact .refused error filled
  | nowhere after varies => exact .unplaced _ (Path.trail?_child_none (.inl varies))
  | somewhere middle part location leads fixed grows fresh =>
    obtain ⟨after, written, same⟩ := changeEach_single (right.create labels value) leads
    have inside := second part
    dsimp only
    rw [same]
    generalize right.create labels value part = attempt at inside written ⊢
    cases inside with
    | refused error partFilled =>
      obtain ⟨rfl, filled⟩ := putBack_filled leads written fresh partFilled
      exact .refused error filled
    | unplaced changed varies => exact .unplaced after (Path.trail?_child_none (.inr varies))
    | placed changed inner innerWritten innerFixed innerSpares =>
      refine .placed after (location ++ inner) ?_ (Path.trail?_child_fixed fixed innerFixed)
        (grows.spares leads innerSpares written)
      rw [resolve?_write?_below written, innerWritten]

theorem created_straight (labels : Option String) (value : Value) (straight : path.Straight) (tree : Value) :
    Created path.trail? tree value (path.create labels value tree) := by
  induction straight generalizing tree with
  | root => exact created_here
  | this => exact created_here
  | field name => exact created_field
  | index i => exact created_index
  | child first second _ ihSecond => exact created_child (reached_straight first) ihSecond

-- A refusal leaves the tree as it was.
theorem create_refused {error : CreateError} (straight : path.Straight)
    (refused : (path.create labels value tree).2 = .error error) :
    (path.create labels value tree).1 = tree := by
  have outcome := created_straight labels value straight tree
  generalize path.create labels value tree = attempt at outcome refused ⊢
  cases outcome with
  | refused error filled => rfl
  | unplaced after varies => cases refused
  | placed after location written fixed spares => cases refused

-- Two steps down into what is there, and one that a number refuses.
theorem create_refused_number :
    let tree := Value.object [("a", .null), ("b", .array [.null, .integer 5])]
    let path := Path.child (.child .root (.field "b")) (.child (.index (-1)) (.child (.field "c") (.index 2)))
    path.Straight ∧ (path.create none .null tree).2 = .error (.noObject "integer") ∧
      (path.create none .null tree).1 = tree := by
  intro tree path
  have straight : path.Straight :=
    .child (.child .root (.field "b")) (.child (.index (-1)) (.child (.field "c") (.index 2)))
  have refused : (path.create none .null tree).2 = .error (.noObject "integer") := rfl
  exact ⟨straight, refused, create_refused straight refused⟩

-- What was created is found again, and nothing else; what was in the tree neither above nor below it
-- is as it was. Nothing is refused where there is a blank.
theorem create_found (top : path.FromTop) :
    (∀ after, path.create labels value tree = (after, .ok ()) →
      ∃ m location, path.find none after = [m] ∧ m.value = value ∧ m.location? = some location ∧
        ∀ place part, tree.resolve? place = some part → ¬place <+: location → ¬location <+: place →
          after.resolve? place = some part) ∧
      (tree = .null ∨ tree = .object [] → ∃ after, path.create labels value tree = (after, .ok ())) := by
  obtain ⟨steps, trail⟩ := top.trail
  have outcome := created_straight labels value top.straight tree
  generalize path.create labels value tree = attempt at outcome ⊢
  cases outcome with
  | refused error filled =>
    refine ⟨fun after same => ?_, fun blank => ?_⟩
    · cases same
    · rcases blank with rfl | rfl <;> cases filled
  | unplaced after varies =>
    rw [trail] at varies
    cases varies
  | placed after location written fixed spares =>
    refine ⟨fun result same => ?_, fun _ => ⟨after, rfl⟩⟩
    cases same
    have here := fixed steps trail
    subst here
    obtain ⟨m, only, _, holds, isAt⟩ := Match.alone_find top trail written
    exact ⟨m, location, only, holds, isAt, spares⟩

-- An array grows past its end, and its placeholder becomes an object.
theorem create_found_grown :
    let tree := Value.object [("foo", .array [.integer 1]), ("baz", .null)]
    let path := Path.child (.child .root (.field "foo")) (.child (.index 2) (.child .this (.field "bar")))
    let after := Value.object
      [("foo", .array [.integer 1, .object [], .object [("bar", .integer 42)]]), ("baz", .null)]
    path.FromTop ∧ path.create none (.integer 42) tree = (after, .ok ()) ∧
      ∃ m, path.find none after = [m] ∧ m.value = .integer 42 := by
  intro tree path after
  have top : path.FromTop :=
    .child (.child .root (.field "foo")) (.child (.index 2 (by decide)) (.child .this (.field "bar")))
  have created : path.create none (.integer 42) tree = (after, .ok ()) := rfl
  obtain ⟨m, _, only, holds, _⟩ := (create_found top).1 after created
  exact ⟨top, created, m, only, holds⟩

end TreePath
