import TreePath.Proofs.Match.Inward
import TreePath.Proofs.Match.Trail
namespace TreePath.Match

variable {m found middle : Match} {tree part : Value} {location steps : Location} {step : Step} {name : String}
  {index : Int64} {members : List (String × Value)} {items : List Value} {position : Nat}

theorem position?_parts {length : Nat} (present : Slice.position? index length = some position) :
    position < length ∧ (index.toInt < 0 ∧ (position : Int) = index.toInt + length ∨
      0 ≤ index.toInt ∧ (position : Int) = index.toInt) := by
  unfold Slice.position? at present
  dsimp only at present
  rw [Option.ite_none_right_eq_some] at present
  obtain ⟨⟨low, high⟩, same⟩ := present
  cases same
  split at low <;> omega

-- A match that is no label and holds the part of the tree at its own location.
structure Stands (tree : Value) (location : Location) (m : Match) : Prop where
  real : m.isLabel = false
  place : m.location? = some location
  leads : tree.resolve? location = some m.value
  top : m.first.value = tree

theorem stands_start : Stands tree [] (start tree) :=
  ⟨rfl, rfl, rfl, rfl⟩

theorem first_select {segment : Path} {value : Value} : (m.select segment value).first = m.first := by
  simp [select, first, links, List.getLast?_cons]

namespace Stands

theorem atTop (stands : Stands tree location m) : Stands tree [] m.top := by
  have same : m.top.value = tree := stands.top
  exact ⟨rfl, rfl, congrArg some same.symm, same⟩

theorem wellFormed (stands : Stands tree location m) (valid : tree.WellFormed) : m.value.WellFormed :=
  valid.resolve stands.leads

theorem member (stands : Stands tree location m) (value : m.value = .object members)
    (present : Value.lookup name members = some part) :
    Stands tree (location ++ [.member name]) (m.select (.field name) part) := by
  refine ⟨rfl, ?_, ?_, ?_⟩
  · rw [location?_select, stands.place]
    rfl
  · rw [Value.resolve?_append, stands.leads, Option.bind_some, value]
    simp [Value.resolve?_cons, Value.child?, present, select, Match.value]
  · rw [first_select, stands.top]

theorem element (stands : Stands tree location m) (valid : tree.WellFormed) (value : m.value = .array items)
    (present : items[position]? = some part) :
    Stands tree (location ++ [.element position]) (m.select (.index (Int64.ofNat position)) part) := by
  have counts := (value ▸ stands.wellFormed valid).position_toInt present
  refine ⟨rfl, ?_, ?_, ?_⟩
  · rw [location?_select, stands.place, value]
    simp [stepFrom, counts]
  · rw [Value.resolve?_append, stands.leads, Option.bind_some, value]
    simp [Value.resolve?_cons, Value.child?, present, select, Match.value]
  · rw [first_select, stands.top]

theorem whole (stands : Stands tree location m) (noArray : m.value.isArray = false) :
    Stands tree location (m.select (.index 0) m.value) := by
  refine ⟨rfl, ?_, stands.leads, ?_⟩
  · rw [location?_select, stands.place]
    exact stepFrom_whole noArray
  · rw [first_select, stands.top]

-- From a match to one further down.
theorem inside (outer : Stands tree location m) (inner : Stands tree (location ++ steps) found) :
    m.value.resolve? steps = some found.value := by
  have whole := inner.leads
  rwa [Value.resolve?_append, outer.leads] at whole

theorem value_inside (outer : Stands tree location m) (inner : Stands tree (location ++ steps) found)
    (leads : m.value.resolve? steps = some part) : found.value = part :=
  Option.some.inj ((outer.inside inner).symm.trans leads)

theorem inside_step (outer : Stands tree location m) (inner : Stands tree (location ++ [step]) found) :
    m.value.child? step = some found.value := by
  have reached := outer.inside inner
  simpa [Value.resolve?_cons] using reached

theorem alike (stands : Stands tree location m) : Alike m (start m.value) :=
  ⟨rfl, stands.real⟩

theorem of_part (stands : Stands tree location m) (valid : tree.WellFormed) (isPart : found ∈ m.parts) :
    ∃ step, found.Stands tree (location ++ [step]) := by
  unfold parts at isPart
  split at isPart
  · rename_i items value
    obtain ⟨position, part, present, rfl⟩ := mem_elementsFrom.mp isPart
    rw [Nat.zero_add]
    exact ⟨_, stands.element valid value present⟩
  · rename_i members value
    obtain ⟨⟨name, part⟩, listed, rfl⟩ := mem_ofMembers.mp isPart
    exact ⟨_, stands.member value ((value ▸ stands.wellFormed valid).lookup_of_mem listed)⟩
  · cases isPart

theorem part_of_child (stands : Stands tree location m) (valid : tree.WellFormed)
    (leads : m.value.child? step = some part) : ∃ found ∈ m.parts, found.Stands tree (location ++ [step]) := by
  unfold parts
  cases value : m.value <;> cases step <;> rw [value] at leads <;> simp only [Value.child?, reduceCtorEq] at leads
  case array.element items position =>
    refine ⟨_, mem_elementsFrom.mpr ⟨position, part, leads, rfl⟩, ?_⟩
    rw [Nat.zero_add]
    exact stands.element valid value leads
  case object.member members name =>
    exact ⟨_, mem_ofMembers.mpr ⟨_, Value.mem_of_lookup leads, rfl⟩, stands.member value leads⟩

theorem below (stands : Stands tree location m) (valid : tree.WellFormed) (below : Below m found) :
    ∃ steps, found.Stands tree (location ++ steps) := by
  induction below with
  | refl => exact ⟨[], by rwa [List.append_nil]⟩
  | tail _ isPart ih =>
    obtain ⟨steps, reached⟩ := ih
    obtain ⟨step, further⟩ := reached.of_part valid isPart
    exact ⟨steps ++ [step], by rwa [← List.append_assoc]⟩

theorem below_of_resolve (stands : Stands tree location m) (valid : tree.WellFormed)
    (leads : m.value.resolve? steps = some part) :
    ∃ found, Below m found ∧ found.Stands tree (location ++ steps) := by
  induction steps generalizing m location with
  | nil => exact ⟨m, .refl, by rwa [List.append_nil]⟩
  | cons step rest ih =>
    rw [Value.resolve?_cons] at leads
    obtain ⟨middle, isChild, leads⟩ := Option.bind_eq_some_iff.mp leads
    obtain ⟨next, isPart, nextStands⟩ := stands.part_of_child valid isChild
    have holds : next.value = middle := Option.some.inj ((stands.inside_step nextStands).symm.trans isChild)
    obtain ⟨found, below, foundStands⟩ := ih nextStands (holds ▸ leads)
    exact ⟨found, .head isPart below, by simpa using foundStands⟩

end Stands

end TreePath.Match
