import TreePath.Proofs.Match.Preorder
import TreePath.Proofs.Selection.Slices
import TreePath.Proofs.Value.Resemblance
namespace TreePath

-- What indices and slices take a value for: null has no elements, and what is no array is the one element of one.
def Value.sequence : Value → List Value
  | .null => []
  | .array items => items
  | other => [other]

-- The slice that takes in the position of an index and no other. There is no stop behind the last position, as 0
-- is the first.
def Path.sliceAt (i : Int64) : Path :=
  if i = -1 then .slice (some (-1)) none none else .slice (some i) (some (i + 1)) none

variable {m whole : Match} {index : Int64} {start stop step : Option Int64} {items : List Value}
  {members : List (String × Value)}

namespace Slice

-- A slice forth that has no room for more than one position.
theorem positions_one (length : Nat) (start stop : Option Int64)
    (short : exit length stop 1 ≤ entry length start 1 + 1) :
    positions length start stop none =
      if entry length start 1 < exit length stop 1 then [(entry length start 1).toNat] else [] := by
  rw [positions_forth]
  split
  · rename_i inside
    have one : (exit length stop 1 - entry length start 1).toNat = 1 := by omega
    rw [one]
    rfl
  · rename_i outside
    have none : (exit length stop 1 - entry length start 1).toNat = 0 := by omega
    rw [none]
    rfl

theorem positions_at (length : Nat) (below : index < Int64.maxValue) (notLast : index ≠ -1) :
    positions length (some index) (some (index + 1)) none = (position? index length).toList := by
  have next : (index + 1).toInt = index.toInt + 1 := by
    have low := index.le_toInt
    rw [Int64.lt_iff_toInt_lt, Int64.toInt_maxValue] at below
    rw [Int64.toInt_add, Int.bmod_eq_of_le] <;> simp <;> omega
  have apart : index.toInt ≠ -1 := fun same => notLast (Int64.toInt_inj.mp same)
  have starts : entry length (some index) 1 = reached length 1 index.toInt := rfl
  have stops : exit length (some (index + 1)) 1 = reached length 1 (index.toInt + 1) := by rw [← next]; rfl
  have rises : ¬(1 : Int) < 0 := by decide
  unfold reached lower upper at starts stops
  rw [if_neg rises, if_neg rises] at starts stops
  rw [positions_one, starts, stops]
  · unfold position?
    generalize index.toInt = i at apart
    dsimp only
    split_ifs <;> simp <;> omega
  · rw [starts, stops]
    split_ifs <;> omega

theorem positions_last (length : Nat) :
    positions length (some (-1)) none none = (position? (-1) length).toList := by
  have one : (-1 : Int64).toInt = -1 := by decide
  have starts : entry length (some (-1)) 1 = max (-1 + (length : Int)) 0 := by
    rw [entry, Option.elim_some, one]
    rfl
  have stops : exit length none 1 = length := rfl
  rw [positions_one, starts, stops]
  · unfold position?
    rw [one]
    dsimp only
    split_ifs <;> simp <;> omega
  · rw [starts, stops]
    omega

theorem positions_full (length : Nat) : positions length none none none = List.range length := by
  have first : entry length none 1 = 0 := rfl
  have last : exit length none 1 = length := rfl
  rw [positions_forth, first, last, List.range_eq_range', Int.sub_zero]
  rfl

theorem position?_single : position? index 1 = if index.toInt = 0 ∨ index.toInt = -1 then some 0 else none := by
  unfold position?
  generalize index.toInt = i
  dsimp only
  grind

end Slice

namespace Match

-- The element at a position, as it is selected.
def picked (m : Match) (position : Nat) : Option Match :=
  m.value.sequence[position]?.map (m.select (.index (Int64.ofNat position)))

theorem sequence_single (single : m.value.IsSingle) : m.value.sequence = [m.value] := by
  cases value : m.value with
  | null =>
    rw [value] at single
    cases single.2
  | array items =>
    rw [value] at single
    cases single.1
  | _ => rfl

theorem element_eq_picked :
    m.element index = (Slice.position? index m.value.sequence.length).toList.filterMap m.picked := by
  have options (position : Option Nat) (find : Nat → Option Match) :
      (position.bind find).toList = position.toList.filterMap find := by
    cases position with
    | none => rfl
    | some n => cases found : find n <;> simp [found]
  unfold element picked
  rw [← options]
  split
  · rename_i null
    rw [null]
    simp [Value.sequence]
  · rename_i items array
    rw [array]
    rfl
  · rename_i notNull notArray
    rw [sequence_single ⟨Value.isArray_eq_false notArray, Value.isNull_eq_false notNull⟩]
    rw [List.length_singleton, Slice.position?_single]
    split <;> rfl

theorem elements_eq_picked :
    m.elements start stop step = (Slice.positions m.value.sequence.length start stop step).filterMap m.picked := by
  unfold elements picked
  dsimp only
  split
  · rename_i null
    rw [null]
    rfl
  · rename_i items array
    rw [array]
    rfl
  · rename_i notNull notArray
    rw [sequence_single ⟨Value.isArray_eq_false notArray, Value.isNull_eq_false notNull⟩]

-- The links do not show where they were selected from.
theorem picked_link (position : Nat) : (m.picked position).map link =
    m.value.sequence[position]?.map fun value => ⟨value, .index (Int64.ofNat position), false⟩ := by
  rw [picked, Option.map_map]
  rfl

theorem links_picked (same : m.value.sequence = whole.value.sequence) (positions : List Nat) :
    (positions.filterMap m.picked).map link = (positions.filterMap whole.picked).map link := by
  simp only [List.map_filterMap, picked_link, same]

theorem elementsFrom_eq (m : Match) (first : Nat) (items : List Value) : m.elementsFrom first items =
    (List.range items.length).filterMap fun n => items[n]?.map (m.select (.index (Int64.ofNat (first + n)))) := by
  induction items generalizing first with
  | nil => rfl
  | cons item rest ih =>
    rw [elementsFrom, ih, List.length_cons, List.range_succ_eq_map, List.filterMap_cons, List.filterMap_map]
    simp [Nat.add_assoc, Nat.add_comm 1]

theorem elements_full (array : m.value = .array items) : m.elements none none none = m.parts := by
  rw [elements_eq_picked, Slice.positions_full, parts, array]
  dsimp only
  rw [elementsFrom_eq, Value.sequence]
  apply List.filterMap_congr
  intro n _
  rw [picked, array, Value.sequence, Nat.zero_add]

theorem members_wildcard (object : m.value = .object members) (unique : (members.map Prod.fst).Nodup) :
    (m.names none).filterMap (m.member? none) = m.parts := by
  rw [names, parts, object]
  dsimp only
  rw [ofMembers_eq, List.filterMap_map, ← List.filterMap_eq_map]
  apply List.filterMap_congr
  intro member listed
  have found := Value.lookup_of_mem unique listed
  simp [member?, object, Value.get?, found]

-- Conditions that something is there leave the same matches as one `where` after another.
theorem matchesFrom_wheres (labels : Option String) (left : Path) (paths : List Path) (m : Match) :
    (paths.foldl .whereSome left).matchesFrom labels m =
      (left.matchesFrom labels m).filter (allHold labels (paths.map .present)) := by
  induction paths generalizing left with
  | nil => simp [allHold]
  | cons path paths ih =>
    rw [List.foldl_cons, ih, Path.matchesFrom, List.filter_filter]
    apply List.filter_congr
    intro found _
    rw [List.map_cons, allHold, Condition.holds, Bool.and_comm]

end Match

-- An index finds what a slice of one position finds. What is neither an array nor null is indexed and sliced like
-- the one element of an array.
theorem Path.index_eq_slice (labels : Option String) (m : Match) :
    (∀ i < Int64.maxValue, (Path.index i).matchesFrom labels m = (sliceAt i).matchesFrom labels m) ∧
      (m.value.IsSingle → ∀ whole : Match, whole.value = .array [m.value] →
        (∀ i, ((Path.index i).matchesFrom labels m).map Match.link =
            ((Path.index i).matchesFrom labels whole).map Match.link) ∧
        ∀ start stop step, ((slice start stop step).matchesFrom labels m).map Match.link =
          ((slice start stop step).matchesFrom labels whole).map Match.link) := by
  constructor
  · intro i below
    unfold sliceAt
    split
    · rename_i last
      subst last
      rw [matchesFrom, matchesFrom, Match.element_eq_picked, Match.elements_eq_picked, Slice.positions_last]
    · rename_i notLast
      rw [matchesFrom, matchesFrom, Match.element_eq_picked, Match.elements_eq_picked,
        Slice.positions_at _ below notLast]
  · intro single whole only
    have same : m.value.sequence = whole.value.sequence := by
      rw [Match.sequence_single single, only]
      rfl
    constructor
    · intro i
      rw [matchesFrom, matchesFrom, Match.element_eq_picked, Match.element_eq_picked, ← same]
      exact Match.links_picked same _
    · intro start stop step
      rw [matchesFrom, matchesFrom, Match.elements_eq_picked, Match.elements_eq_picked, ← same]
      exact Match.links_picked same _

-- The first of three elements, counted from behind, and a text as its own last element.
theorem Path.index_eq_slice_back :
    let m := Match.start (.array [.boolean true, .null, .string "x"])
    let text := Match.start (.string "x")
    let whole := Match.start (.array [.string "x"])
    (-3 : Int64) < Int64.maxValue ∧ text.value.IsSingle ∧ whole.value = .array [text.value] ∧
      (Path.index (-3)).matchesFrom none m = (slice (some (-3)) (some (-2)) none).matchesFrom none m ∧
      ((Path.index (-3)).matchesFrom none m).map Match.value = [.boolean true] ∧
      ((Path.index (-1)).matchesFrom none text).map Match.link =
        ((Path.index (-1)).matchesFrom none whole).map Match.link := by
  intro m text whole
  have below : (-3 : Int64) < Int64.maxValue := by decide
  have single : text.value.IsSingle := ⟨rfl, rfl⟩
  have only : whole.value = .array [text.value] := rfl
  exact ⟨below, single, only, (Path.index_eq_slice none m).1 (-3) below, rfl,
    ((Path.index_eq_slice none text).2 single whole only).1 (-1)⟩

-- A filter by conditions that something is there finds what one `where` after another leaves of all elements or
-- all members.
theorem Path.filter_eq_wheres (paths : List Path) (inhabited : paths ≠ []) (m : Match) :
    (∀ labels items, m.value = .array items →
      (filter (paths.map .present)).matchesFrom labels m = (paths.foldl whereSome fullSlice).matchesFrom labels m) ∧
    ∀ members, m.value = .object members → (members.map Prod.fst).Nodup →
      (filter (paths.map .present)).matchesFrom none m = (paths.foldl whereSome wildcard).matchesFrom none m := by
  have parts (labels : Option String) :
      (filter (paths.map .present)).matchesFrom labels m = m.parts.filter (allHold labels (paths.map .present)) := by
    rw [matchesFrom, if_neg]
    simpa using inhabited
  constructor
  · intro labels items array
    rw [parts, Match.matchesFrom_wheres, fullSlice, matchesFrom, Match.elements_full array]
  · intro members object unique
    rw [parts, Match.matchesFrom_wheres, matchesFrom, Match.members_wildcard object unique]

-- Two conditions on the members of an object, the second of which looks at another member.
theorem Path.filter_eq_wheres_beside :
    let members := [("a", Value.object [("x", .null)]), ("b", .object [("y", .null)]), ("c", .boolean true)]
    let m := Match.start (.object members)
    let beside := Path.child .parent (.field "c")
    let conditions := [field "x", beside]
    conditions ≠ [] ∧ m.value = .object members ∧ (members.map Prod.fst).Nodup ∧
      (filter (conditions.map .present)).matchesFrom none m =
        (whereSome (whereSome wildcard (field "x")) beside).matchesFrom none m ∧
      ((filter (conditions.map .present)).matchesFrom none m).map Match.segment = [field "a"] := by
  intro members m beside conditions
  have inhabited : conditions ≠ [] := List.cons_ne_nil _ _
  have object : m.value = .object members := rfl
  have unique : (members.map Prod.fst).Nodup := by decide
  exact ⟨inhabited, object, unique, (Path.filter_eq_wheres conditions inhabited m).2 members object unique, rfl⟩

end TreePath
