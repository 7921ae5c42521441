import TreePath.Proofs.Edit.Targets
import TreePath.Proofs.Match.Standing
import TreePath.Proofs.Value.Resemblance
namespace TreePath

-- Paths without steps up and without computed values, in which `$` stands at the front only and
-- conditions are inward.
inductive Path.Direct : Bool → Path → Prop where
  | root : Direct true .root
  | this {front : Bool} : Direct front .this
  | wildcard {front : Bool} : Direct front .wildcard
  | fields {front : Bool} (names : List String) : Direct front (.fields names)
  | index {front : Bool} (i : Int64) : Direct front (.index i)
  | slice {front : Bool} (start stop step : Option Int64) : Direct front (.slice start stop step)
  | child {front : Bool} {left right : Path} (first : Direct front left) (second : Direct false right) :
      Direct front (.child left right)
  | descendants {front : Bool} {left right : Path} (first : Direct front left) (second : Direct false right) :
      Direct front (.descendants left right)
  | union {front : Bool} {alternatives : List Path} (all : ∀ path ∈ alternatives, Direct front path) :
      Direct front (.union alternatives)
  | filter {front : Bool} {conditions : List Condition} (inward : conditionsInward conditions = true) :
      Direct front (.filter conditions)
  | whereSome {front : Bool} {left right : Path} (first : Direct front left) (inward : right.isInward = true) :
      Direct front (.whereSome left right)
  | whereNone {front : Bool} {left right : Path} (first : Direct front left) (inward : right.isInward = true) :
      Direct front (.whereNone left right)

-- The locations in a value that such a path finds, without the matches there.
inductive Path.Selects : Path → Value → Location → Prop where
  | root {value : Value} : Selects .root value []
  | this {value : Value} : Selects .this value []
  | wildcard {value part : Value} {name : String} (present : value.child? (.member name) = some part) :
      Selects .wildcard value [.member name]
  | field {value part : Value} {names : List String} {name : String} (listed : name ∈ names)
      (present : value.child? (.member name) = some part) : Selects (.fields names) value [.member name]
  | index {value : Value} {items : List Value} {i : Int64} {position : Nat} (isArray : value = .array items)
      (counts : Slice.position? i items.length = some position) : Selects (.index i) value [.element position]
  | single {value : Value} {i : Int64} (single : value.IsSingle) (counts : i.toInt = 0 ∨ i.toInt = -1) :
      Selects (.index i) value []
  | slice {value : Value} {items : List Value} {start stop step : Option Int64} {position : Nat}
      (isArray : value = .array items) (counts : position ∈ Slice.positions items.length start stop step)
      (inside : position < items.length) : Selects (.slice start stop step) value [.element position]
  | sliceSingle {value : Value} {start stop step : Option Int64} (single : value.IsSingle)
      (counts : 0 ∈ Slice.positions 1 start stop step) : Selects (.slice start stop step) value []
  | child {value part : Value} {left right : Path} {before behind : Location} (first : Selects left value before)
      (leads : value.resolve? before = some part) (second : Selects right part behind) :
      Selects (.child left right) value (before ++ behind)
  | descendants {value part : Value} {left right : Path} {before between behind : Location}
      (first : Selects left value before) (leads : value.resolve? (before ++ between) = some part)
      (second : Selects right part behind) : Selects (.descendants left right) value (before ++ between ++ behind)
  | union {value : Value} {alternatives : List Path} {path : Path} {location : Location}
      (listed : path ∈ alternatives) (one : Selects path value location) :
      Selects (.union alternatives) value location
  | unconditional {value : Value} : Selects (.filter []) value []
  | filter {value part : Value} {conditions : List Condition} {step : Step} (conditional : conditions ≠ [])
      (present : value.child? step = some part) (holds : allHold none conditions (Match.start part) = true) :
      Selects (.filter conditions) value [step]
  | whereSome {value part : Value} {left right : Path} {location : Location} (first : Selects left value location)
      (leads : value.resolve? location = some part) (finds : (right.find none part).isEmpty = false) :
      Selects (.whereSome left right) value location
  | whereNone {value part : Value} {left right : Path} {location : Location} (first : Selects left value location)
      (leads : value.resolve? location = some part) (finds : (right.find none part).isEmpty = true) :
      Selects (.whereNone left right) value location

variable {path left right : Path} {tree part value : Value} {location inner : Location} {name : String}
  {index : Int64} {first last step : Option Int64} {names : List String} {conditions : List Condition}
  {alternatives : List Path} {front : Bool} {m found : Match}

namespace Match

theorem get?_eq_child? : value.get? name = value.child? (.member name) := by
  cases value <;> rfl

theorem mem_matchesOfAll {labels : Option String} : found ∈ matchesOfAll labels alternatives m ↔
    ∃ path ∈ alternatives, found ∈ path.matchesFrom labels m := by
  induction alternatives with
  | nil => simp [matchesOfAll]
  | cons path rest ih => simp [matchesOfAll, ih]

theorem member?_eq_child? : m.member? none name = (m.value.child? (.member name)).map (m.select (.field name)) := by
  simp [member?, get?_eq_child?]

theorem member_of_child (stands : m.Stands tree location) (present : m.value.child? (.member name) = some part) :
    m.member? none name = some (m.select (.field name) part) ∧
      (m.select (.field name) part).Stands tree (location ++ [.member name]) := by
  refine ⟨by rw [member?_eq_child?, present]; rfl, ?_⟩
  cases value : m.value <;> rw [value] at present <;> simp only [Value.child?, reduceCtorEq] at present
  exact stands.member value present

theorem child_of_member (stands : m.Stands tree location) (selected : m.member? none name = some found) :
    ∃ part, m.value.child? (.member name) = some part ∧ found.Stands tree (location ++ [.member name]) := by
  rw [member?_eq_child?] at selected
  obtain ⟨part, present, rfl⟩ := Option.map_eq_some_iff.mp selected
  exact ⟨part, present, (member_of_child stands present).2⟩

theorem mem_names : name ∈ m.names none ↔ ∃ part, m.value.child? (.member name) = some part := by
  unfold names
  cases value : m.value with
  | object members => exact Value.mem_names
  | _ => exact ⟨nofun, nofun⟩

theorem selects_element (stands : m.Stands tree location) (valid : tree.WellFormed)
    (present : found ∈ m.element index) :
    ∃ inner, Path.Selects (.index index) m.value inner ∧ found.Stands tree (location ++ inner) := by
  unfold element at present
  split at present
  · cases present
  · rename_i items value
    obtain ⟨position, counts, selected⟩ := Option.bind_eq_some_iff.mp (Option.mem_toList.mp present)
    obtain ⟨part, listed, rfl⟩ := Option.map_eq_some_iff.mp selected
    exact ⟨_, .index value counts, stands.element valid value listed⟩
  · rename_i notNull notArray
    have noArray := Value.isArray_eq_false notArray
    split at present
    · rename_i counts
      cases List.mem_singleton.mp present
      exact ⟨[], .single ⟨noArray, Value.isNull_eq_false notNull⟩ counts, by simpa using stands.whole noArray⟩
    · cases present

theorem selects_elements (stands : m.Stands tree location) (valid : tree.WellFormed)
    (present : found ∈ m.elements first last step) :
    ∃ inner, Path.Selects (.slice first last step) m.value inner ∧ found.Stands tree (location ++ inner) := by
  unfold elements at present
  dsimp only at present
  split at present
  · cases present
  · rename_i items value
    obtain ⟨position, counts, selected⟩ := List.mem_filterMap.mp present
    obtain ⟨part, listed, rfl⟩ := Option.map_eq_some_iff.mp selected
    have inside := (List.getElem?_eq_some_iff.mp listed).1
    exact ⟨_, .slice value counts inside, stands.element valid value listed⟩
  · rename_i notNull notArray
    have noArray := Value.isArray_eq_false notArray
    obtain ⟨position, counts, selected⟩ := List.mem_filterMap.mp present
    obtain ⟨part, listed, rfl⟩ := Option.map_eq_some_iff.mp selected
    obtain ⟨inside, rfl⟩ := List.getElem?_eq_some_iff.mp listed
    have only : position = 0 := by simpa using inside
    subst only
    exact ⟨[], .sliceSingle ⟨noArray, Value.isNull_eq_false notNull⟩ counts, by simpa using stands.whole noArray⟩

-- A match that is found from one in the tree is in the tree, at one of the locations selected.
theorem selects_of_mem (direct : path.Direct front) (valid : tree.WellFormed) (stands : m.Stands tree location)
    (top : front = true → location = []) (present : found ∈ path.matchesFrom none m) :
    ∃ inner, path.Selects m.value inner ∧ found.Stands tree (location ++ inner) := by
  induction direct generalizing m location found with
  | root =>
    cases top rfl
    cases List.mem_singleton.mp present
    exact ⟨[], .root, stands.atTop⟩
  | this =>
    cases List.mem_singleton.mp present
    exact ⟨[], .this, by rwa [List.append_nil]⟩
  | wildcard =>
    rw [Path.matchesFrom] at present
    obtain ⟨name, _, selected⟩ := List.mem_filterMap.mp present
    obtain ⟨part, here, foundStands⟩ := child_of_member stands selected
    exact ⟨_, .wildcard here, foundStands⟩
  | fields names =>
    rw [Path.matchesFrom] at present
    obtain ⟨name, listed, selected⟩ := List.mem_filterMap.mp present
    obtain ⟨part, here, foundStands⟩ := child_of_member stands selected
    exact ⟨_, .field listed here, foundStands⟩
  | index i =>
    rw [Path.matchesFrom] at present
    exact selects_element stands valid present
  | slice start stop step =>
    rw [Path.matchesFrom] at present
    exact selects_elements stands valid present
  | child first second ihFirst ihSecond =>
    rw [Path.matchesFrom] at present
    obtain ⟨middle, kept, present⟩ := List.mem_flatMap.mp present
    obtain ⟨before, selects, middleStands⟩ := ihFirst stands top (List.mem_filter.mp kept).1
    obtain ⟨behind, further, foundStands⟩ := ihSecond middleStands nofun present
    exact ⟨_, .child selects (stands.inside middleStands) further, by rwa [← List.append_assoc]⟩
  | descendants first second ihFirst ihSecond =>
    rw [Path.matchesFrom] at present
    rcases mem_visitPending.mp present with done | ⟨middle, listed, inner, below, collected⟩
    · cases done
    obtain ⟨before, selects, middleStands⟩ := ihFirst stands top listed
    obtain ⟨between, innerStands⟩ := middleStands.below valid below
    obtain ⟨behind, further, foundStands⟩ := ihSecond innerStands nofun collected
    rw [List.append_assoc] at innerStands
    refine ⟨_, .descendants selects (stands.inside innerStands) further, ?_⟩
    simpa using foundStands
  | union all ih =>
    rw [Path.matchesFrom] at present
    obtain ⟨path, listed, present⟩ := mem_matchesOfAll.mp present
    obtain ⟨inner, selects, foundStands⟩ := ih path listed stands top present
    exact ⟨inner, .union listed selects, foundStands⟩
  | @filter front conditions inward =>
    rw [Path.matchesFrom] at present
    split at present
    · rename_i empty
      cases List.isEmpty_iff.mp empty
      cases List.mem_singleton.mp present
      exact ⟨[], .unconditional, by rwa [List.append_nil]⟩
    · rename_i conditional
      obtain ⟨isPart, holds⟩ := List.mem_filter.mp present
      obtain ⟨step, foundStands⟩ := stands.of_part valid isPart
      have leads := stands.inside_step foundStands
      rw [allHold_alike conditions inward foundStands.alike] at holds
      exact ⟨[step], .filter (fun none => conditional (List.isEmpty_iff.mpr none)) leads holds, foundStands⟩
  | @whereSome front left right first inward ih =>
    rw [Path.matchesFrom] at present
    obtain ⟨listed, finds⟩ := List.mem_filter.mp present
    obtain ⟨inner, selects, foundStands⟩ := ih stands top listed
    rw [alike_isEmpty (alike_matchesFrom right inward foundStands.alike)] at finds
    exact ⟨inner, .whereSome selects (stands.inside foundStands) (by simpa [Path.find] using finds), foundStands⟩
  | @whereNone front left right first inward ih =>
    rw [Path.matchesFrom] at present
    obtain ⟨listed, finds⟩ := List.mem_filter.mp present
    obtain ⟨inner, selects, foundStands⟩ := ih stands top listed
    rw [alike_isEmpty (alike_matchesFrom right inward foundStands.alike)] at finds
    exact ⟨inner, .whereNone selects (stands.inside foundStands) finds, foundStands⟩

theorem mem_element (stands : m.Stands tree location) (valid : tree.WellFormed)
    (selects : Path.Selects (.index index) m.value inner) :
    ∃ found ∈ m.element index, found.Stands tree (location ++ inner) := by
  unfold element
  cases selects with
  | @index _ items _ position value counts =>
    have present := List.getElem?_eq_getElem (position?_parts counts).1
    rw [value]
    exact ⟨_, by simp [counts, present], stands.element valid value present⟩
  | single single counts =>
    refine ⟨m.select (.index 0) m.value, ?_, by simpa using stands.whole single.1⟩
    split
    · rename_i null
      rw [null] at single
      cases single.2
    · rename_i items array
      rw [array] at single
      cases single.1
    · rw [if_pos counts]
      exact List.mem_singleton_self _

theorem mem_elements (stands : m.Stands tree location) (valid : tree.WellFormed)
    (selects : Path.Selects (.slice first last step) m.value inner) :
    ∃ found ∈ m.elements first last step, found.Stands tree (location ++ inner) := by
  unfold elements
  dsimp only
  cases selects with
  | @slice _ items _ _ _ position value counts inside =>
    have present := List.getElem?_eq_getElem inside
    rw [value]
    refine ⟨_, List.mem_filterMap.mpr ⟨position, counts, ?_⟩, stands.element valid value present⟩
    rw [present]
    rfl
  | sliceSingle single counts =>
    refine ⟨m.select (.index 0) m.value, ?_, by simpa using stands.whole single.1⟩
    split
    · rename_i null
      rw [null] at single
      cases single.2
    · rename_i items array
      rw [array] at single
      cases single.1
    · exact List.mem_filterMap.mpr ⟨0, counts, rfl⟩

-- There is a match at every location selected.
theorem mem_of_selects (direct : path.Direct front) (valid : tree.WellFormed) (stands : m.Stands tree location)
    (top : front = true → location = []) (selects : path.Selects m.value inner) :
    ∃ found ∈ path.matchesFrom none m, found.Stands tree (location ++ inner) := by
  induction direct generalizing m location inner with
  | root =>
    cases top rfl
    cases selects
    exact ⟨m.top, List.mem_singleton_self _, stands.atTop⟩
  | this =>
    cases selects
    exact ⟨m, List.mem_singleton_self _, by rwa [List.append_nil]⟩
  | wildcard =>
    cases selects with
    | wildcard present =>
      obtain ⟨selected, foundStands⟩ := member_of_child stands present
      rw [Path.matchesFrom]
      exact ⟨_, List.mem_filterMap.mpr ⟨_, mem_names.mpr ⟨_, present⟩, selected⟩, foundStands⟩
  | fields names =>
    cases selects with
    | field listed present =>
      obtain ⟨selected, foundStands⟩ := member_of_child stands present
      rw [Path.matchesFrom]
      exact ⟨_, List.mem_filterMap.mpr ⟨_, listed, selected⟩, foundStands⟩
  | index i =>
    rw [Path.matchesFrom]
    exact mem_element stands valid selects
  | slice start stop step =>
    rw [Path.matchesFrom]
    exact mem_elements stands valid selects
  | child first second ihFirst ihSecond =>
    cases selects with
    | child before leads behind =>
      obtain ⟨middle, listed, middleStands⟩ := ihFirst stands top before
      have holds := stands.value_inside middleStands leads
      obtain ⟨found, present, foundStands⟩ := ihSecond middleStands nofun (holds ▸ behind)
      rw [Path.matchesFrom]
      have kept : middle ∈ (Path.matchesFrom none _ m).filter fun found => !found.isLabel :=
        List.mem_filter.mpr ⟨listed, by simp [middleStands.real]⟩
      exact ⟨found, List.mem_flatMap.mpr ⟨middle, kept, present⟩, by rwa [← List.append_assoc]⟩
  | descendants first second ihFirst ihSecond =>
    cases selects with
    | descendants before leads behind =>
      obtain ⟨middle, listed, middleStands⟩ := ihFirst stands top before
      have further := leads
      rw [Value.resolve?_append, stands.inside middleStands] at further
      obtain ⟨inner, below, innerStands⟩ := middleStands.below_of_resolve valid further
      rw [List.append_assoc] at innerStands
      have holds := stands.value_inside innerStands leads
      obtain ⟨found, present, foundStands⟩ := ihSecond innerStands nofun (holds ▸ behind)
      rw [Path.matchesFrom]
      refine ⟨found, mem_visitPending.mpr (.inr ⟨middle, listed, inner, below, present⟩), ?_⟩
      simpa using foundStands
  | union all ih =>
    cases selects with
    | union listed one =>
      obtain ⟨found, present, foundStands⟩ := ih _ listed stands top one
      rw [Path.matchesFrom]
      exact ⟨found, mem_matchesOfAll.mpr ⟨_, listed, present⟩, foundStands⟩
  | @filter front conditions inward =>
    rw [Path.matchesFrom]
    cases selects with
    | unconditional => exact ⟨m, List.mem_singleton_self _, by rwa [List.append_nil]⟩
    | filter conditional leads holds =>
      obtain ⟨found, isPart, foundStands⟩ := stands.part_of_child valid leads
      have value : found.value = _ := Option.some.inj ((stands.inside_step foundStands).symm.trans leads)
      rw [← value, ← allHold_alike conditions inward foundStands.alike] at holds
      rw [if_neg fun empty => conditional (List.isEmpty_iff.mp empty)]
      exact ⟨found, List.mem_filter.mpr ⟨isPart, holds⟩, foundStands⟩
  | @whereSome front left right first inward ih =>
    cases selects with
    | whereSome selects leads finds =>
      obtain ⟨found, listed, foundStands⟩ := ih stands top selects
      have value := stands.value_inside foundStands leads
      rw [← value, Path.find, ← alike_isEmpty (alike_matchesFrom right inward foundStands.alike)] at finds
      rw [Path.matchesFrom]
      exact ⟨found, List.mem_filter.mpr ⟨listed, by rw [finds]; rfl⟩, foundStands⟩
  | @whereNone front left right first inward ih =>
    cases selects with
    | whereNone selects leads finds =>
      obtain ⟨found, listed, foundStands⟩ := ih stands top selects
      have value := stands.value_inside foundStands leads
      rw [← value, Path.find, ← alike_isEmpty (alike_matchesFrom right inward foundStands.alike)] at finds
      rw [Path.matchesFrom]
      exact ⟨found, List.mem_filter.mpr ⟨listed, finds⟩, foundStands⟩

end Match

-- The locations that such a path finds are those that it selects.
theorem finds_iff_selects (direct : path.Direct true) (valid : tree.WellFormed) :
    path.Finds none tree location ↔ path.Selects tree location := by
  constructor
  · rintro ⟨m, present, somewhere⟩
    obtain ⟨inner, selects, stands⟩ := Match.selects_of_mem direct valid Match.stands_start (fun _ => rfl) present
    cases Option.some.inj (stands.place.symm.trans somewhere)
    exact selects
  · intro selects
    obtain ⟨m, present, stands⟩ := Match.mem_of_selects direct valid Match.stands_start (fun _ => rfl) selects
    exact ⟨m, present, stands.place⟩

end TreePath
