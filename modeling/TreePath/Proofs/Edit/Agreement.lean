import TreePath.Proofs.Edit.Filling
import TreePath.Proofs.Edit.Replacement
import TreePath.Proofs.Match.Standing
namespace TreePath

namespace Path

-- How deep in the tree a path ends that starts so deep: `$` is a return to the top.
def depthFrom : Path → Nat → Nat
  | .root, _ => 0
  | .fields _, depth => depth + 1
  | .index _, depth => depth + 1
  | .child left right, depth => right.depthFrom (left.depthFrom depth)
  | _, depth => depth

-- The names and indices of a path.
def steps : Path → Nat
  | .fields _ => 1
  | .index _ => 1
  | .child left right => left.steps + right.steps
  | _ => 0

-- Wherever such a path, starting so deep, returns to the top, it is there already.
def AtTop : Path → Nat → Prop
  | .root, depth => depth = 0
  | .child left right, depth => left.AtTop depth ∧ right.AtTop (left.depthFrom depth)
  | _, _ => True

-- No index on the way from a match is applied to what is no array.
def IndexesArrays : Path → Match → Prop
  | .index _, m => m.value.isArray = true
  | .child left right, m =>
    left.IndexesArrays m ∧ ∀ middle ∈ left.matchesFrom none m, right.IndexesArrays middle
  | _, _ => True

end Path

variable {labels : Option String} {path left right : Path} {tree part after value : Value} {name : String}
  {index : Int64} {items : List Value} {location : Location} {depth position : Nat} {m found : Match}

open Value

theorem depthFrom_le (straight : path.Straight) : path.depthFrom depth ≤ depth + path.steps := by
  induction straight generalizing depth with
  | root => exact Nat.zero_le _
  | this => exact Nat.le_refl _
  | field name => exact Nat.le_refl _
  | index i => exact Nat.le_refl _
  | @child left right _ _ ihFirst ihSecond =>
    have before := @ihFirst depth
    have behind := @ihSecond (left.depthFrom depth)
    simp only [Path.depthFrom, Path.steps]
    omega

-- A return to the top from further down costs a path depth.
theorem atTop_iff (straight : path.Straight) : path.AtTop depth ↔ path.depthFrom depth = depth + path.steps := by
  induction straight generalizing depth with
  | root => exact eq_comm
  | this => exact ⟨fun _ => rfl, fun _ => trivial⟩
  | field name => exact ⟨fun _ => rfl, fun _ => trivial⟩
  | index i => exact ⟨fun _ => rfl, fun _ => trivial⟩
  | @child left right first second ihFirst ihSecond =>
    have before : left.depthFrom depth ≤ depth + left.steps := depthFrom_le first
    have behind : right.depthFrom (left.depthFrom depth) ≤ left.depthFrom depth + right.steps :=
      depthFrom_le second
    simp only [Path.AtTop, Path.depthFrom, Path.steps, ihFirst, ihSecond]
    omega

-- Whatever locations are reached, they have a step for each name and index.
theorem length_reach {locations : List Location} (straight : path.Straight)
    (reached : path.reach labels tree = (after, .ok locations)) :
    ∀ location ∈ locations, location.length = path.steps := by
  induction straight generalizing tree after locations with
  | root =>
    cases reached
    simp [Path.steps]
  | this =>
    cases reached
    simp [Path.steps]
  | field name =>
    unfold Path.reach at reached
    split at reached
    · cases reached
    · cases reached
      simp [Path.steps]
  | index i =>
    unfold Path.reach at reached
    split at reached
    · cases reached
    · cases reached
      simp [Path.steps]
  | @child left right first second ihFirst ihSecond =>
    rw [Path.reach] at reached
    have outer : Reached left.trail? tree (left.reach labels tree) := reached_straight first tree
    generalize isFirst : left.reach labels tree = attempt at outer reached
    cases outer with
    | refused error => cases reached
    | nowhere =>
      cases reached
      simp
    | somewhere middle part start leads =>
      obtain ⟨between, _, same⟩ := changeEach_single (right.reach labels) leads
      dsimp only at reached
      rw [same] at reached
      have outerLength := ihFirst isFirst start List.mem_cons_self
      generalize isSecond : right.reach labels part = inner at reached
      obtain ⟨grown, result⟩ := inner
      cases result with
      | error error => cases reached
      | ok ends =>
        cases reached
        intro location listed
        obtain ⟨inner, isEnd, rfl⟩ : ∃ inner ∈ ends, start ++ inner = location := by simpa using listed
        simp only [List.length_append, Path.steps, outerLength, ihSecond isSecond inner isEnd]

-- An index that stands for a position does not make the array grow.
theorem placeIndex_position (present : Slice.position? index items.length = some position) :
    placeIndex index items = (items, some position) := by
  obtain ⟨inside, ⟨back, counts⟩ | ⟨forward, counts⟩⟩ := Match.position?_parts present
  · have same : (index.toInt + items.length).toNat = position := by omega
    unfold placeIndex
    dsimp only
    rw [if_pos back, if_pos (by omega), same]
  · have same : index.toInt.toNat = position := by omega
    have enough : index.toInt.toNat + 1 - items.length = 0 := by omega
    unfold placeIndex
    dsimp only
    rw [if_neg (by omega), enough, same, List.replicate_zero, List.append_nil]

theorem field_parts (present : found ∈ Path.matchesFrom none (.fields [name]) m) :
    ∃ members part, m.value = .object members ∧ lookup name members = some part ∧
      found = m.select (.field name) part := by
  have selected : (m.value.get? name).map (m.select (.field name)) = some found := by
    simpa [Path.matchesFrom, Match.member?] using present
  obtain ⟨part, here, rfl⟩ := Option.map_eq_some_iff.mp selected
  cases value : m.value <;> simp only [value, get?, reduceCtorEq] at here
  exact ⟨_, part, rfl, here, rfl⟩

theorem index_parts (isArray : m.value.isArray = true) (present : found ∈ Path.matchesFrom none (.index index) m) :
    ∃ items position part, m.value = .array items ∧ Slice.position? index items.length = some position ∧
      items[position]? = some part ∧ found = m.select (.index (Int64.ofNat position)) part := by
  cases value : m.value with
  | array items =>
    rw [Path.matchesFrom, Match.element, value] at present
    obtain ⟨position, counts, selected⟩ := Option.bind_eq_some_iff.mp (Option.mem_toList.mp present)
    obtain ⟨part, listed, rfl⟩ := Option.map_eq_some_iff.mp selected
    exact ⟨items, position, part, rfl, counts, listed, rfl⟩
  | _ =>
    rw [value] at isArray
    cases isArray

-- A straight path finds one part of the tree at most, so deep.
theorem stands_straight (straight : path.Straight) (valid : tree.WellFormed) (stands : m.Stands tree location)
    (arrays : path.IndexesArrays m) (present : found ∈ path.matchesFrom none m) :
    path.matchesFrom none m = [found] ∧
      ∃ place, found.Stands tree place ∧ place.length = path.depthFrom location.length := by
  induction straight generalizing m location found with
  | root =>
    cases List.mem_singleton.mp present
    exact ⟨rfl, [], stands.atTop, rfl⟩
  | this =>
    cases List.mem_singleton.mp present
    exact ⟨rfl, location, stands, rfl⟩
  | field name =>
    obtain ⟨members, part, value, here, rfl⟩ := field_parts present
    refine ⟨?_, _, stands.member value here, by simp [Path.depthFrom]⟩
    simp [Path.matchesFrom, Match.member?, value, get?, here]
  | index i =>
    obtain ⟨items, position, part, value, counts, here, rfl⟩ := index_parts arrays present
    refine ⟨?_, _, stands.element valid value here, by simp [Path.depthFrom]⟩
    simp [Path.matchesFrom, Match.element, value, counts, here]
  | @child left right first second ihFirst ihSecond =>
    rw [Path.matchesFrom] at present
    obtain ⟨middle, kept, present⟩ := List.mem_flatMap.mp present
    have listed := (List.mem_filter.mp kept).1
    obtain ⟨only, between, standsMiddle, deep⟩ := ihFirst stands arrays.1 listed
    obtain ⟨alone, place, standsFound, deeper⟩ := ihSecond standsMiddle (arrays.2 middle listed) present
    refine ⟨?_, place, standsFound, ?_⟩
    · simp [Path.matchesFrom, only, standsMiddle.real, alone]
    · rw [deeper, deep, Path.depthFrom]

-- What is found without a return to the top is also reached, without a change.
theorem reach_stands (straight : path.Straight) (valid : tree.WellFormed) (stands : m.Stands tree location)
    (arrays : path.IndexesArrays m) (present : found ∈ path.matchesFrom none m)
    (top : path.AtTop location.length) :
    ∃ inner, path.reach labels m.value = (m.value, .ok [inner]) ∧ found.Stands tree (location ++ inner) := by
  induction straight generalizing m location found with
  | root =>
    cases List.mem_singleton.mp present
    cases List.eq_nil_of_length_eq_zero top
    exact ⟨[], rfl, stands.atTop⟩
  | this =>
    cases List.mem_singleton.mp present
    exact ⟨[], rfl, by rwa [List.append_nil]⟩
  | field name =>
    obtain ⟨members, part, value, here, rfl⟩ := field_parts present
    refine ⟨_, ?_, stands.member value here⟩
    simp [Path.reach, value, asMembers, ensureMembers_found here]
  | index i =>
    obtain ⟨items, position, part, value, counts, here, rfl⟩ := index_parts arrays present
    refine ⟨_, ?_, stands.element valid value here⟩
    simp [Path.reach, value, asItems, placeIndex_position counts]
  | @child left right first second ihFirst ihSecond =>
    rw [Path.matchesFrom] at present
    obtain ⟨middle, kept, present⟩ := List.mem_flatMap.mp present
    have listed := (List.mem_filter.mp kept).1
    obtain ⟨start, outer, standsMiddle⟩ := ihFirst stands arrays.1 listed top.1
    obtain ⟨_, between, standsThere, deep⟩ := stands_straight first valid stands arrays.1 listed
    have isBetween : between = location ++ start := Option.some.inj (standsThere.place.symm.trans standsMiddle.place)
    have behind : right.AtTop (location ++ start).length := by
      rw [← isBetween, deep]
      exact top.2
    obtain ⟨inner, reached, standsFound⟩ := ihSecond standsMiddle (arrays.2 middle listed) present behind
    have leads : m.value.resolve? start = some middle.value := by
      have whole := standsMiddle.leads
      rwa [resolve?_append, stands.leads] at whole
    obtain ⟨after, written, same⟩ := changeEach_single (right.reach labels) leads
    rw [reached, write?_found leads] at written
    cases written
    refine ⟨start ++ inner, ?_, by rwa [← List.append_assoc]⟩
    rw [Path.reach, outer]
    dsimp only
    rw [same, reached]
    simp [Except.map]

theorem targets_single (only : path.find labels tree = [m]) (place : m.location? = some location) :
    path.targets labels tree = [⟨location, m.fullPath⟩] := by
  have listed : distinctTargets [] ((path.find labels tree).filterMap Match.target?) =
      [⟨location, m.fullPath⟩] := by
    simp [only, Match.target?, place, distinctTargets]
  rw [Path.targets, listed]
  exact List.perm_singleton.mp Sorting.sort_perm

theorem update_single (only : path.find labels tree = [m]) (place : m.location? = some location)
    (written : tree.write? location value = some after) : path.update labels tree value = after := by
  obtain ⟨part, leads⟩ := resolve?_of_write? written
  simp [Path.update, Path.updateWith, targets_single only place, replaceTargets, leads, written]

theorem create_eq_update (valid : tree.WellFormed) (straight : path.Straight) (only : path.find none tree = [m])
    (arrays : path.IndexesArrays (Match.start tree)) (top : path.AtTop 0) (value : Value) :
    path.create none value tree = (path.update none tree value, .ok ()) := by
  have listed : m ∈ path.find none tree := only ▸ List.mem_singleton_self m
  obtain ⟨place, reached, stands⟩ : ∃ place, path.reach none tree = (tree, .ok [place]) ∧
      m.Stands tree ([] ++ place) :=
    reach_stands straight valid Match.stands_start arrays listed top
  rw [List.nil_append] at stands
  obtain ⟨after, written⟩ := write?_isSome value stands.leads
  rw [create_eq_fill straight, reached, fill_single written, update_single only stands.place written]

-- What is reached is not where an update writes, if it is further down: whether it lies within that
-- place or apart from it, some value shows the difference.
theorem fill_ne_update {place deeper : Location} {grown : Value} (only : path.find labels tree = [m])
    (found : m.location? = some place) (present : tree.resolve? place = some m.value)
    (leads : grown.resolve? deeper = some part) (further : place.length < deeper.length) :
    ∃ value, fill value (grown, .ok [deeper]) ≠ (path.update labels tree value, .ok ()) := by
  refine Classical.byContradiction fun never => ?_
  have agree : ∀ value, (path.update labels tree value).resolve? deeper = some value := by
    intro value
    obtain ⟨filled, written⟩ := write?_isSome value leads
    have same : fill value (grown, .ok [deeper]) = (path.update labels tree value, .ok ()) :=
      Classical.byContradiction fun differ => never ⟨value, differ⟩
    rw [fill_single written] at same
    cases same
    exact resolve?_write?_self written
  by_cases above : place <+: deeper
  · obtain ⟨suffix, rfl⟩ := above
    obtain ⟨after, written⟩ := write?_isSome .null present
    have inside := agree .null
    rw [update_single only found written, resolve?_write?_below written] at inside
    cases suffix with
    | nil => simp at further
    | cons step rest => cases inside
  · have notAbove : ¬deeper <+: place := fun above => absurd above.length_le (by omega)
    have kept : ∀ value, tree.resolve? deeper = some value := by
      intro value
      obtain ⟨after, written⟩ := write?_isSome value present
      rw [← agree value, update_single only found written, resolve?_write?_apart written above notAbove]
    exact absurd ((kept .null).symm.trans (kept (.boolean true))) nofun

-- A path that returns to the top from further down has a place to reach that is deeper than what it
-- finds, or none.
theorem create_ne_update (valid : tree.WellFormed) (straight : path.Straight) (only : path.find none tree = [m])
    (arrays : path.IndexesArrays (Match.start tree)) (returns : ¬path.AtTop 0) :
    ∃ value, path.create none value tree ≠ (path.update none tree value, .ok ()) := by
  have listed : m ∈ path.find none tree := only ▸ List.mem_singleton_self m
  obtain ⟨_, place, stands, deep⟩ := stands_straight straight valid Match.stands_start arrays listed
  have shallower : place.length < path.steps := by
    have bound : path.depthFrom 0 ≤ 0 + path.steps := depthFrom_le straight
    rw [atTop_iff straight] at returns
    rw [deep, List.length_nil]
    omega
  simp only [create_eq_fill straight]
  have outcome : Reached path.trail? tree (path.reach none tree) := reached_straight straight tree
  generalize reached : path.reach none tree = attempt at outcome
  cases outcome with
  | refused error filled => exact ⟨.null, by simp [fill]⟩
  | nowhere grown varies =>
    refine Classical.byContradiction fun never => ?_
    have agree : ∀ value, grown.resolve? place = some value := by
      intro value
      have same : fill value (grown, .ok []) = (path.update none tree value, .ok ()) :=
        Classical.byContradiction fun differ => never ⟨value, differ⟩
      obtain ⟨after, written⟩ := write?_isSome value stands.leads
      rw [update_single only stands.place written] at same
      cases same
      exact resolve?_write?_self written
    cases (agree .null).symm.trans (agree (.boolean true))
  | somewhere grown part deeper leads fixed grows fresh =>
    have deep : deeper.length = path.steps := length_reach straight reached deeper List.mem_cons_self
    exact fill_ne_update only stands.place stands.leads leads (by omega)

-- On what is there already, creating writes where updating does, whatever the value, exactly if the
-- path does not return to the top from further down.
theorem create_eq_update_iff (valid : tree.WellFormed) (straight : path.Straight) (only : path.find none tree = [m])
    (arrays : path.IndexesArrays (Match.start tree)) :
    (∀ value, path.create none value tree = (path.update none tree value, .ok ())) ↔ path.AtTop 0 := by
  constructor
  · intro agree
    refine Classical.byContradiction fun returns => ?_
    obtain ⟨value, differ⟩ := create_ne_update valid straight only arrays returns
    exact differ (agree value)
  · exact create_eq_update valid straight only arrays

-- The last element of an array, behind a return to the top at the top.
theorem create_eq_update_last :
    let tree := Value.object [("a", .array [.null, .object [("b", .integer 1)]]), ("c", .boolean true)]
    let path := Path.child (.child .this .root) (.child (.child (.field "a") (.index (-1))) (.field "b"))
    path.Straight ∧ tree.WellFormed ∧ (∃ m, path.find none tree = [m]) ∧
      path.IndexesArrays (Match.start tree) ∧
      path.AtTop 0 ∧
      path.create none (.string "x") tree = (path.update none tree (.string "x"), .ok ()) := by
  intro tree path
  have straight : path.Straight := .child (.child .this .root) (.child (.child (.field "a") (.index (-1))) (.field "b"))
  have valid : tree.WellFormed :=
    ⟨by simp [tree, Value.UniqueNames, Value.ItemsUnique, Value.MembersUnique],
      by simp [tree, Value.Sized, Value.ItemsSized, Value.MembersSized, Integer.highest]⟩
  have only : path.find none tree = [⟨⟨.integer 1, .field "b", false⟩,
      [⟨.object [("b", .integer 1)], .index 1, false⟩,
        ⟨.array [.null, .object [("b", .integer 1)]], .field "a", false⟩,
        ⟨tree, .root, false⟩]⟩] := rfl
  have arrays : path.IndexesArrays (Match.start tree) := by
    refine ⟨⟨trivial, fun _ _ => trivial⟩, fun top here => ?_⟩
    obtain ⟨_, ⟨rfl, _⟩, rfl⟩ : ∃ first, (first = Match.start tree ∧ first.isLabel = false) ∧
        top = first.top := by
      simpa [Path.matchesFrom] using here
    refine ⟨⟨trivial, fun middle there => ?_⟩, fun _ _ => trivial⟩
    have isMiddle : middle = (Match.start tree).top.select (.field "a") (.array [.null, .object [("b", .integer 1)]]) :=
      List.mem_singleton.mp there
    subst isMiddle
    rfl
  have top : path.AtTop 0 := ⟨⟨trivial, rfl⟩, ⟨trivial, trivial⟩, trivial⟩
  exact ⟨straight, valid, ⟨_, only⟩, arrays, top, (create_eq_update_iff valid straight only arrays).mpr top _⟩

-- An update returns to the top, and replaces the tree; creating goes on from where it is.
theorem create_ne_update_restart :
    let tree := Value.object [("a", .integer 1)]
    let path := Path.child (.field "a") .root
    path.Straight ∧ tree.WellFormed ∧ (∃ m, path.find none tree = [m]) ∧
      path.IndexesArrays (Match.start tree) ∧
      path.update none tree (.integer 2) = .integer 2 ∧
      path.create none (.integer 2) tree = (.object [("a", .integer 2)], .ok ()) := by
  intro tree path
  have valid : tree.WellFormed :=
    ⟨by simp [tree, Value.UniqueNames, Value.MembersUnique], by simp [tree, Value.Sized, Value.MembersSized]⟩
  exact ⟨.child (.field "a") .root, valid, ⟨_, rfl⟩, ⟨trivial, fun _ _ => trivial⟩, rfl, rfl⟩

end TreePath
