import Mathlib.Data.List.Nodup
import TreePath.Proofs.Match.Standing
namespace TreePath

-- The steps from a value to its parts, in the order of the tree.
def Value.steps : Value → List Step
  | .array items => (List.range items.length).map .element
  | .object members => members.map fun member => .member member.1
  | _ => []

theorem Value.WellFormed.nodup_steps {value : Value} (valid : value.WellFormed) : value.steps.Nodup := by
  cases value with
  | array items => exact List.Nodup.map (fun _ _ same => Step.element.inj same) List.nodup_range
  | object members =>
    have names := List.Nodup.map (fun _ _ same => Step.member.inj same) (wellFormed_object.mp valid).1
    rwa [List.map_map] at names
  | _ => exact List.nodup_nil

namespace Match

variable {labels : Option String} {collect : Match → List Match} {m part found inner : Match}
  {pending : List Match} {results : List (List Match)} {collected : List Match} {tree : Value}
  {location : Location} {members : List (String × Value)} {items : List Value} {first : Nat}

theorem size_le_pendingSize (waiting : part ∈ pending) : part.value.size ≤ pendingSize pending := by
  induction pending with
  | nil => cases waiting
  | cons next rest ih =>
    rw [pendingSize]
    rcases List.mem_cons.mp waiting with rfl | later
    · exact Nat.le_add_right _ _
    · exact Nat.le_trans (ih later) (Nat.le_add_left _ _)

theorem size_of_mem_parts (isPart : part ∈ m.parts) : part.value.size < m.value.size := by
  have bound := size_le_pendingSize isPart
  have whole := pendingSize_parts m
  omega

-- What is found at a match, and then what is found at and below each of its parts, one part after another.
def visit (collect : Match → List Match) (m : Match) : List Match :=
  collect m ++ m.parts.attach.flatMap fun part => visit collect part.1
termination_by m.value.size
decreasing_by exact size_of_mem_parts part.2

theorem visit_eq : visit collect m = collect m ++ m.parts.flatMap (visit collect) := by
  rw [visit, List.flatMap_subtype fun _ _ => rfl, List.unattach_attach]

theorem visitPending_eq :
    visitPending collect pending results = results.reverse.flatten ++ pending.flatMap (visit collect) := by
  induction pending, results using visitPending.induct collect with
  | case1 results => simp [visitPending]
  | case2 m pending results ih =>
    rw [visitPending, ih, List.flatMap_append, List.flatMap_cons, visit_eq]
    simp

-- The pending matches as a stack, the next one last, and what has been found.
structure Descent where
  stack : List Match
  found : List Match

-- One turn takes a match from the stack and puts its parts there, the first of them last.
def Descent.turn? (collect : Match → List Match) (d : Descent) : Option Descent :=
  d.stack.getLast?.map fun m => ⟨d.stack.dropLast ++ m.parts.reverse, d.found ++ collect m⟩

inductive Descent.Runs (collect : Match → List Match) : Nat → Descent → Descent → Prop where
  | done (d : Descent) : Runs collect 0 d d
  | turn {turns : Nat} {d next last : Descent} (taken : d.turn? collect = some next)
      (later : Runs collect turns next last) : Runs collect (turns + 1) d last

theorem turn?_reverse : Descent.turn? collect ⟨(m :: pending).reverse, collected⟩ =
    some ⟨(m.parts ++ pending).reverse, collected ++ collect m⟩ := by
  simp [Descent.turn?]

-- Every turn deals with one of the values at and below the pending matches, so it takes as many turns as
-- there are such values until the stack is empty.
theorem descent_runs : Descent.Runs collect (pendingSize pending) ⟨pending.reverse, collected⟩
    ⟨[], collected ++ pending.flatMap (visit collect)⟩ := by
  induction size : pendingSize pending generalizing pending collected with
  | zero =>
    cases pending with
    | nil => simpa using Descent.Runs.done _
    | cons m rest =>
      have whole := pendingSize_parts m
      rw [pendingSize] at size
      omega
  | succ turns ih =>
    cases pending with
    | nil => cases size
    | cons m rest =>
      have whole := pendingSize_parts m
      have left : pendingSize (m.parts ++ rest) = turns := by
        rw [pendingSize_append]
        rw [pendingSize] at size
        omega
      have later : Descent.Runs collect turns ⟨(m.parts ++ rest).reverse, collected ++ collect m⟩
          ⟨[], (collected ++ collect m) ++ (m.parts ++ rest).flatMap (visit collect)⟩ := ih left
      refine .turn turn?_reverse ?_
      simpa [visit_eq (m := m)] using later

theorem mem_visit : found ∈ visit collect m ↔ ∃ inner, Below m inner ∧ found ∈ collect inner := by
  have whole : visit collect m = visitPending collect [m] [] := by simp [visitPending_eq]
  rw [whole, mem_visitPending]
  simp

theorem getElem?_elementsFrom {position : Nat} : (m.elementsFrom first items)[position]? =
    items[position]?.map (m.select (.index (Int64.ofNat (first + position)))) := by
  induction items generalizing first position with
  | nil => rfl
  | cons item rest ih =>
    cases position with
    | zero => rfl
    | succ position =>
      rw [elementsFrom, List.getElem?_cons_succ, List.getElem?_cons_succ, ih, Nat.add_right_comm, Nat.add_assoc]

theorem ofMembers_eq : m.ofMembers members = members.map fun member => m.select (.field member.1) member.2 := by
  induction members with
  | nil => rfl
  | cons member rest ih => rw [ofMembers, ih, List.map_cons]

-- The parts of a match stand one step below it, each at a step of its own.
theorem Stands.locations_parts (stands : m.Stands tree location) (valid : tree.WellFormed) :
    m.parts.map location? = m.value.steps.map fun step => some (location ++ [step]) := by
  unfold parts Value.steps
  cases value : m.value with
  | array items =>
    apply List.ext_getElem?
    intro position
    rw [List.getElem?_map, getElem?_elementsFrom, Nat.zero_add]
    cases present : items[position]? with
    | none =>
      have outside := List.getElem?_eq_none_iff.mp present
      simp [outside]
    | some part =>
      have inside := (List.getElem?_eq_some_iff.mp present).1
      have place := (stands.element valid value present).place
      simp [inside, place]
  | object members =>
    have unique := stands.wellFormed valid
    rw [value] at unique
    dsimp only
    rw [ofMembers_eq, List.map_map, List.map_map]
    apply List.map_congr_left
    intro member listed
    exact (stands.member value (unique.lookup_of_mem listed)).place
  | _ => rfl

-- The matches at and below a match.
abbrev downward : Match → List Match := visit fun m => [m]

theorem mem_downward : found ∈ downward m ↔ Below m found := by
  simp [mem_visit]

theorem Stands.place_downward (stands : m.Stands tree location) (valid : tree.WellFormed)
    (listed : found ∈ downward m) : ∃ steps, found.location? = some (location ++ steps) := by
  obtain ⟨steps, there⟩ := stands.below valid (mem_downward.mp listed)
  exact ⟨steps, there.place⟩

-- Matches below two parts stand below two different steps.
theorem Stands.apart_downward {other : Match} (stands : m.Stands tree location) (valid : tree.WellFormed)
    (isPart : part ∈ m.parts) (isOther : other ∈ m.parts) (apart : part.location? ≠ other.location?) :
    ((downward part).map location?).Disjoint ((downward other).map location?) := by
  obtain ⟨step, partStands⟩ := stands.of_part valid isPart
  obtain ⟨step', otherStands⟩ := stands.of_part valid isOther
  intro place here there
  obtain ⟨found, listed, rfl⟩ := List.mem_map.mp here
  obtain ⟨found', listed', same⟩ := List.mem_map.mp there
  obtain ⟨steps, place⟩ := partStands.place_downward valid listed
  obtain ⟨steps', place'⟩ := otherStands.place_downward valid listed'
  rw [place, place'] at same
  have equal : step' = step := by simpa using congrArg (fun place => place[location.length]?) (Option.some.inj same)
  rw [partStands.place, otherStands.place, equal] at apart
  exact apart rfl

theorem Stands.nodup_downward (stands : m.Stands tree location) (valid : tree.WellFormed) :
    ((downward m).map location?).Nodup := by
  induction m using visit.induct generalizing location with
  | case1 m ih =>
    have steps := (stands.wellFormed valid).nodup_steps
    have places : (m.parts.map location?).Nodup := by
      rw [stands.locations_parts valid]
      exact List.Nodup.map (fun _ _ same => by simpa using same) steps
    rw [downward, visit_eq, List.map_append, List.map_flatMap, List.map_singleton, List.singleton_append,
      List.nodup_cons, List.nodup_flatMap, stands.place]
    refine ⟨?_, ?_, ?_⟩
    · -- What is below a part is at least a step away.
      intro here
      obtain ⟨part, isPart, listed⟩ := List.mem_flatMap.mp here
      obtain ⟨found, inside, same⟩ := List.mem_map.mp listed
      obtain ⟨step, partStands⟩ := stands.of_part valid isPart
      obtain ⟨steps, place⟩ := partStands.place_downward valid inside
      rw [place] at same
      simp at same
    · intro part isPart
      obtain ⟨step, partStands⟩ := stands.of_part valid isPart
      exact ih ⟨part, isPart⟩ partStands
    · have pairwise := List.pairwise_map.mp places
      exact pairwise.imp_of_mem fun isPart isOther apart => stands.apart_downward valid isPart isOther apart

-- The places at and below a match are those that resolve there.
theorem Stands.places_downward (stands : m.Stands tree []) (valid : tree.WellFormed) :
    ∃ places : List Location, (downward m).map location? = places.map some ∧ places.Nodup ∧
      ∀ location, location ∈ places ↔ (tree.resolve? location).isSome = true := by
  have located : ∀ found ∈ downward m, ∃ place, found.location? = some place := by
    intro found listed
    obtain ⟨steps, place⟩ := stands.place_downward valid listed
    exact ⟨_, place⟩
  have same : (downward m).map location? = ((downward m).filterMap location?).map some := by
    rw [List.map_filterMap_some_eq_filter_map_isSome]
    refine (List.filter_eq_self.mpr fun place here => ?_).symm
    obtain ⟨found, listed, rfl⟩ := List.mem_map.mp here
    obtain ⟨place, there⟩ := located found listed
    rw [there]
    rfl
  refine ⟨(downward m).filterMap location?, same, ?_, fun location => ?_⟩
  · have apart := stands.nodup_downward valid
    rw [same] at apart
    exact List.Nodup.of_map some apart
  · rw [List.mem_filterMap]
    constructor
    · rintro ⟨found, listed, place⟩
      obtain ⟨steps, there⟩ := stands.below valid (mem_downward.mp listed)
      cases Option.some.inj (there.place.symm.trans place)
      rw [there.leads]
      rfl
    · intro resolves
      obtain ⟨part, leads⟩ := Option.isSome_iff_exists.mp resolves
      have top : m.value = tree := by simpa using stands.leads.symm
      rw [← top] at leads
      obtain ⟨found, reached, there⟩ := stands.below_of_resolve valid leads
      exact ⟨found, mem_downward.mpr reached, there.place⟩

-- A search down visits everything at and below the matches of the left side: a match first and then, part by
-- part, what is below it. Its stack runs empty, and from the top of a tree it comes by every place once.
theorem descendants_exact (labels : Option String) (left right : Path) (m : Match) (tree : Value)
    (valid : tree.WellFormed) :
    let collect := right.matchesFrom labels
    let starts := left.matchesFrom labels m
    let found := (left.descendants right).matchesFrom labels m
    (∃ turns, Descent.Runs collect turns ⟨starts.reverse, []⟩ ⟨[], found⟩) ∧
      found = starts.flatMap (visit collect) ∧
      (∀ n, visit collect n = collect n ++ n.parts.flatMap (visit collect)) ∧
      ∃ places : List Location, ((Path.root.descendants .this).find labels tree).map location? = places.map some ∧
        places.Nodup ∧ ∀ location, location ∈ places ↔ (tree.resolve? location).isSome = true := by
  intro collect starts found
  have listed : found = starts.flatMap (visit collect) := by
    simp only [found, Path.matchesFrom, visitPending_eq]
    rfl
  refine ⟨?_, listed, fun n => visit_eq, ?_⟩
  · have runs : Descent.Runs collect (pendingSize starts) ⟨starts.reverse, []⟩ _ := descent_runs
    rw [List.nil_append, ← listed] at runs
    exact ⟨_, runs⟩
  · have all : (Path.root.descendants .this).find labels tree = downward (start tree).top := by
      simp [Path.find, Path.matchesFrom, visitPending_eq, downward]
    rw [all]
    exact stands_start.atTop.places_downward valid

-- A member below an element below a member, and the member beside it.
theorem descendants_exact_nested :
    let tree := Value.object [("a", .array [.object [("b", .null)]]), ("c", .boolean true)]
    let places := [[], [.member "a"], [.member "a", .element 0], [.member "a", .element 0, .member "b"], [.member "c"]]
    let found := (Path.root.descendants .this).find none tree
    tree.WellFormed ∧ found.map location? = places.map some ∧
      found = (Path.root.matchesFrom none (start tree)).flatMap (visit (Path.this.matchesFrom none)) := by
  intro tree places found
  have valid : tree.WellFormed :=
    ⟨by simp [tree, Value.UniqueNames, Value.ItemsUnique, Value.MembersUnique],
      by simp [tree, Value.Sized, Value.ItemsSized, Value.MembersSized, Integer.highest]⟩
  have listed := (descendants_exact none .root .this (start tree) tree valid).2.1
  refine ⟨valid, ?_, listed⟩
  have all : found = _ := listed
  rw [all]
  simp [visit_eq, Path.matchesFrom, tree, places, parts, elementsFrom, ofMembers, select, top, start, value, first,
    links, location?, locateFrom, stepFrom, Path.field]

end Match
end TreePath
