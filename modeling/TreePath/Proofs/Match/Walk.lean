import Mathlib.Logic.Relation
import TreePath.Proofs.Value.WellFormed
import TreePath.Selection.Find
namespace TreePath

-- What a segment of these nodes selects was computed, and is no part of the tree.
def Path.isComputed : Path → Bool
  | .sort _ => true
  | .arithmetic _ _ _ => true
  | .named _ => true
  | _ => false

theorem Value.isArray_eq_false {value : Value} (apart : ∀ items, value ≠ .array items) : value.isArray = false := by
  cases value <;> first | rfl | exact absurd rfl (apart _)

theorem Value.isNull_eq_false {value : Value} (apart : value ≠ .null) : value.isNull = false := by
  cases value <;> first | rfl | exact absurd rfl apart

namespace Match

-- All that one turn of a search can do to a match. A search only ever goes back to the top, goes up
-- its own chain, or puts one link on it.
inductive Moves (labels : Option String) (m : Match) : Match → Prop where
  | top : Moves labels m m.top
  | up {next : Match} (context : m.context? = some next) : Moves labels m next
  | member {members : List (String × Value)} {name : String} {part : Value}
      (value : m.value = .object members) (present : (name, part) ∈ members) :
      Moves labels m (m.select (.field name) part)
  | element {items : List Value} {position : Nat} {part : Value}
      (value : m.value = .array items) (present : items[position]? = some part) :
      Moves labels m (m.select (.index (Int64.ofNat position)) part)
  | whole (noArray : m.value.isArray = false) (filled : m.value.isNull = false) :
      Moves labels m (m.select (.index 0) m.value)
  | label {field : String} (named : labels = some field) : Moves labels m (m.label field)
  | computed {segment : Path} {value : Value} (computed : segment.isComputed = true) :
      Moves labels m (m.select segment value)

abbrev Walks (labels : Option String) : Match → Match → Prop :=
  Relation.ReflTransGen (Moves labels)

variable {labels : Option String} {path : Path} {m found : Match} {part value : Value} {name : String}
  {index : Int64} {members : List (String × Value)} {items rest : List Value}

theorem mem_elementsFrom {start : Nat} : found ∈ m.elementsFrom start items ↔
    ∃ position part, items[position]? = some part ∧
      found = m.select (.index (Int64.ofNat (start + position))) part := by
  induction items generalizing start with
  | nil => simp [elementsFrom]
  | cons item rest ih =>
    rw [elementsFrom, List.mem_cons, ih]
    constructor
    · rintro (rfl | ⟨position, part, present, rfl⟩)
      · exact ⟨0, item, rfl, rfl⟩
      · exact ⟨position + 1, part, present, by rw [Nat.add_right_comm, Nat.add_assoc]⟩
    · rintro ⟨position, part, present, rfl⟩
      cases position with
      | zero =>
        cases present
        exact .inl rfl
      | succ position => exact .inr ⟨position, part, present, by rw [Nat.add_right_comm, Nat.add_assoc]⟩

theorem mem_ofMembers : found ∈ m.ofMembers members ↔
    ∃ member ∈ members, found = m.select (.field member.1) member.2 := by
  induction members with
  | nil => simp [ofMembers]
  | cons member rest ih => simp [ofMembers, ih]

theorem moves_of_mem_parts (present : found ∈ m.parts) : Moves labels m found := by
  unfold parts at present
  split at present
  · rename_i items value
    obtain ⟨position, part, listed, rfl⟩ := mem_elementsFrom.mp present
    rw [Nat.zero_add]
    exact .element value listed
  · rename_i members value
    obtain ⟨member, listed, rfl⟩ := mem_ofMembers.mp present
    exact .member value listed
  · cases present

theorem moves_of_member? (selected : m.member? labels name = some found) : Moves labels m found := by
  unfold member? at selected
  split at selected
  · rename_i named
    cases Option.some.inj selected
    exact .label named
  · obtain ⟨part, present, rfl⟩ := Option.map_eq_some_iff.mp selected
    cases value : m.value <;> simp only [value, Value.get?, reduceCtorEq] at present
    exact .member value (Value.mem_of_lookup present)

theorem moves_of_mem_element (present : found ∈ m.element index) : Moves labels m found := by
  unfold element at present
  split at present
  · cases present
  · rename_i items value
    obtain ⟨position, _, selected⟩ := Option.bind_eq_some_iff.mp (Option.mem_toList.mp present)
    obtain ⟨part, listed, rfl⟩ := Option.map_eq_some_iff.mp selected
    exact .element value listed
  · rename_i notNull notArray
    split at present
    · cases List.mem_singleton.mp present
      exact .whole (Value.isArray_eq_false notArray) (Value.isNull_eq_false notNull)
    · cases present

theorem moves_of_mem_elements {first last step : Option Int64}
    (present : found ∈ m.elements first last step) : Moves labels m found := by
  unfold elements at present
  dsimp only at present
  split at present
  · cases present
  · rename_i items value
    obtain ⟨position, _, selected⟩ := List.mem_filterMap.mp present
    obtain ⟨part, listed, rfl⟩ := Option.map_eq_some_iff.mp selected
    exact .element value listed
  · rename_i notNull notArray
    obtain ⟨position, _, selected⟩ := List.mem_filterMap.mp present
    obtain ⟨part, listed, rfl⟩ := Option.map_eq_some_iff.mp selected
    -- The only element of `[m.value]` is at position zero.
    obtain ⟨inside, rfl⟩ := List.getElem?_eq_some_iff.mp listed
    have first : position = 0 := by simpa using inside
    subst first
    exact .whole (Value.isArray_eq_false notArray) (Value.isNull_eq_false notNull)

-- The match itself and the parts of its value, the parts of those, and so on.
abbrev Below : Match → Match → Prop :=
  Relation.ReflTransGen fun above below => below ∈ above.parts

theorem mem_visitPending {collect : Match → List Match} {pending : List Match} {results : List (List Match)} :
    found ∈ visitPending collect pending results ↔
      found ∈ results.flatten ∨ ∃ p ∈ pending, ∃ inner, Below p inner ∧ found ∈ collect inner := by
  induction pending, results using visitPending.induct collect with
  | case1 results => simp [visitPending]
  | case2 p pending results ih =>
    rw [visitPending, ih, List.flatten_cons, List.mem_append]
    constructor
    · rintro ((here | done) | ⟨q, waiting, inner, below, collected⟩)
      · exact .inr ⟨p, List.mem_cons_self, p, .refl, here⟩
      · exact .inl done
      · rcases List.mem_append.mp waiting with isPart | later
        · exact .inr ⟨p, List.mem_cons_self, inner, .head isPart below, collected⟩
        · exact .inr ⟨q, List.mem_cons_of_mem p later, inner, below, collected⟩
    · rintro (done | ⟨q, waiting, inner, below, collected⟩)
      · exact .inl (.inr done)
      · rcases List.mem_cons.mp waiting with rfl | later
        · rcases below.cases_head with rfl | ⟨next, isPart, below⟩
          · exact .inl (.inl collected)
          · exact .inr ⟨next, List.mem_append_left _ isPart, inner, below, collected⟩
        · exact .inr ⟨q, List.mem_append_right _ later, inner, below, collected⟩

theorem walks_of_below (below : Below m found) : Walks labels m found := by
  induction below with
  | refl => exact .refl
  | tail _ isPart ih => exact ih.tail (moves_of_mem_parts isPart)

mutual
-- The recursion is that of the search. Conditions, sort keys and operands need no case of their own:
-- they choose among matches or compute a value, and lead nowhere.
theorem walks_of_mem_matchesFrom (path : Path) (m : Match) :
    ∀ found ∈ path.matchesFrom labels m, Walks labels m found := by
  intro found present
  cases path with
  | root =>
    rw [Path.matchesFrom] at present
    cases List.mem_singleton.mp present
    exact .single .top
  | this =>
    rw [Path.matchesFrom] at present
    cases List.mem_singleton.mp present
    exact .refl
  | parent =>
    rw [Path.matchesFrom] at present
    exact .single (.up (Option.mem_toList.mp present))
  | wildcard =>
    rw [Path.matchesFrom] at present
    obtain ⟨name, _, selected⟩ := List.mem_filterMap.mp present
    exact .single (moves_of_member? selected)
  | fields names =>
    rw [Path.matchesFrom] at present
    obtain ⟨name, _, selected⟩ := List.mem_filterMap.mp present
    exact .single (moves_of_member? selected)
  | index i =>
    rw [Path.matchesFrom] at present
    exact .single (moves_of_mem_element present)
  | slice first last step =>
    rw [Path.matchesFrom] at present
    exact .single (moves_of_mem_elements present)
  | child left right =>
    rw [Path.matchesFrom] at present
    obtain ⟨middle, kept, present⟩ := List.mem_flatMap.mp present
    have reached := walks_of_mem_matchesFrom left m middle (List.mem_filter.mp kept).1
    exact reached.trans (walks_of_mem_matchesFrom right middle found present)
  | descendants left right =>
    rw [Path.matchesFrom] at present
    rcases mem_visitPending.mp present with done | ⟨p, listed, inner, below, collected⟩
    · cases done
    · have reached := (walks_of_mem_matchesFrom left m p listed).trans (walks_of_below below)
      exact reached.trans (walks_of_mem_matchesFrom right inner found collected)
  | whereSome left right =>
    rw [Path.matchesFrom] at present
    exact walks_of_mem_matchesFrom left m found (List.mem_filter.mp present).1
  | whereNone left right =>
    rw [Path.matchesFrom] at present
    exact walks_of_mem_matchesFrom left m found (List.mem_filter.mp present).1
  | union alternatives =>
    rw [Path.matchesFrom] at present
    exact walks_of_mem_matchesOfAll alternatives m found present
  | filter conditions =>
    rw [Path.matchesFrom] at present
    split at present
    · cases List.mem_singleton.mp present
      exact .refl
    · exact .single (moves_of_mem_parts (List.mem_filter.mp present).1)
  | sort keys =>
    rw [Path.matchesFrom.eq_def] at present
    dsimp only at present
    split at present
    · split at present
      · cases List.mem_singleton.mp present
        exact .single (.computed rfl)
      · cases List.mem_singleton.mp present
        exact .refl
    · cases List.mem_singleton.mp present
      exact .single (.computed rfl)
    · cases List.mem_singleton.mp present
      exact .refl
  | arithmetic operator left right =>
    rw [Path.matchesFrom] at present
    obtain ⟨value, _, rfl⟩ := List.mem_map.mp present
    exact .single (.computed rfl)
  | named operator =>
    cases operator with
    | sorted =>
      rw [Path.matchesFrom] at present
      split at present
      · cases List.mem_singleton.mp present
        exact .single (.computed rfl)
      · cases List.mem_singleton.mp present
        exact .refl
    | len | keys | str | sub | split =>
      rw [Path.matchesFrom] at present
      · obtain ⟨value, _, rfl⟩ := List.mem_map.mp present
        exact .single (.computed rfl)
      · simp

theorem walks_of_mem_matchesOfAll (alternatives : List Path) (m : Match) :
    ∀ found ∈ matchesOfAll labels alternatives m, Walks labels m found := by
  intro found present
  cases alternatives with
  | nil =>
    rw [matchesOfAll] at present
    cases present
  | cons path rest =>
    rw [matchesOfAll] at present
    rcases List.mem_append.mp present with here | later
    · exact walks_of_mem_matchesFrom path m found here
    · exact walks_of_mem_matchesOfAll rest m found later
end

-- A search keeps whatever its single turns keep.
theorem keeps_of_moves {holds : Match → Prop}
    (kept : ∀ m next, holds m → Moves labels m next → holds next) (start : holds m)
    (present : found ∈ path.matchesFrom labels m) : holds found := by
  have walk := walks_of_mem_matchesFrom path m found present
  clear present
  induction walk with
  | refl => exact start
  | tail _ move ih => exact kept _ _ ih move

end Match

end TreePath
