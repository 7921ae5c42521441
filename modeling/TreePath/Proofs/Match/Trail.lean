import TreePath.Proofs.Match.Place
namespace TreePath

-- Paths that lead one step down at a time, to one part at most.
inductive Path.Straight : Path → Prop where
  | root : Straight .root
  | this : Straight .this
  | field (name : String) : Straight (.fields [name])
  | index (i : Int64) : Straight (.index i)
  | child {left right : Path} (first : Straight left) (second : Straight right) :
      Straight (.child left right)

-- The steps such a path takes, if they are the same in every tree: an index that counts from the end
-- is none of them.
def Path.trail? : Path → Option Location
  | .root => some []
  | .this => some []
  | .fields [name] => some [.member name]
  | .index i => if 0 ≤ i.toInt then some [.element i.toInt.toNat] else none
  | .child left right => left.trail?.bind fun first => right.trail?.map (first ++ ·)
  | _ => none

-- Straight paths that only go down, and whose steps do not depend on the tree.
inductive Path.Downward : Path → Prop where
  | this : Downward .this
  | field (name : String) : Downward (.fields [name])
  | index (i : Int64) (forward : 0 ≤ i.toInt) : Downward (.index i)
  | child {left right : Path} (first : Downward left) (second : Downward right) :
      Downward (.child left right)

-- The same with `$` as the first segment of all, or without.
inductive Path.FromTop : Path → Prop where
  | root : FromTop .root
  | down {path : Path} (down : path.Downward) : FromTop path
  | child {left right : Path} (first : FromTop left) (second : Downward right) :
      FromTop (.child left right)

variable {labels : Option String} {path left right : Path} {m : Match} {tree part value : Value}
  {segment : Path} {location before behind : Location} {name : String} {index : Int64}

namespace Path

theorem Downward.straight (down : path.Downward) : path.Straight := by
  induction down with
  | this => exact .this
  | field name => exact .field name
  | index i forward => exact .index i
  | child _ _ ihFirst ihSecond => exact .child ihFirst ihSecond

theorem FromTop.straight (top : path.FromTop) : path.Straight := by
  induction top with
  | root => exact .root
  | down down => exact down.straight
  | child _ second ihFirst => exact .child ihFirst second.straight

theorem trail?_child (first : left.trail? = some before) (second : right.trail? = some behind) :
    (child left right).trail? = some (before ++ behind) := by
  rw [trail?, first, second]
  rfl

-- What is at the end of the steps of a path is at the end of the second part's steps from the end of the first's.
theorem leads_child {tree part : Value} {location : Location} (first : left.trail? = some before)
    (second : right.trail? = some behind) (steps : (child left right).trail? = some location)
    (leads : tree.resolve? location = some part) :
    ∃ middle, tree.resolve? before = some middle ∧ middle.resolve? behind = some part ∧
      location = before ++ behind := by
  rw [trail?_child first second] at steps
  cases steps
  rw [Value.resolve?_append] at leads
  obtain ⟨middle, reached, goesOn⟩ := Option.bind_eq_some_iff.mp leads
  exact ⟨middle, reached, goesOn, rfl⟩

theorem trail?_child_none (varies : left.trail? = none ∨ right.trail? = none) :
    (child left right).trail? = none := by
  unfold trail?
  rcases varies with varies | varies
  · rw [varies]
    rfl
  · rw [varies]
    cases left.trail? <;> rfl

theorem trail?_child_fixed (first : ∀ steps ∈ left.trail?, before = steps)
    (second : ∀ steps ∈ right.trail?, behind = steps) :
    ∀ steps ∈ (child left right).trail?, before ++ behind = steps := by
  intro steps here
  obtain ⟨a, isFirst, here⟩ := Option.bind_eq_some_iff.mp here
  obtain ⟨b, isSecond, rfl⟩ := Option.map_eq_some_iff.mp here
  rw [first a isFirst, second b isSecond]

theorem Downward.trail (down : path.Downward) : ∃ location, path.trail? = some location := by
  induction down with
  | this => exact ⟨_, rfl⟩
  | field name => exact ⟨_, rfl⟩
  | index i forward => exact ⟨_, if_pos forward⟩
  | child _ _ ihFirst ihSecond =>
    obtain ⟨before, isFirst⟩ := ihFirst
    obtain ⟨behind, isSecond⟩ := ihSecond
    exact ⟨_, trail?_child isFirst isSecond⟩

theorem FromTop.trail (top : path.FromTop) : ∃ location, path.trail? = some location := by
  induction top with
  | root => exact ⟨_, rfl⟩
  | down down => exact down.trail
  | child _ second ihFirst =>
    obtain ⟨before, isFirst⟩ := ihFirst
    obtain ⟨behind, isSecond⟩ := second.trail
    exact ⟨_, trail?_child isFirst isSecond⟩

end Path

namespace Match

-- These are one match alone, no label, which has this value and is at this location.
def Alone (found : List Match) (location : Option Location) (value : Value) : Prop :=
  ∃ m, found = [m] ∧ m.isLabel = false ∧ m.value = value ∧ m.location? = location

theorem location?_select : (m.select segment value).location? =
    m.location?.bind fun location => stepFrom (some m.value) location ⟨value, segment, false⟩ := by
  rw [location?_eq_located, location?_eq_located]
  rfl

theorem alone_field (leads : m.value.resolve? [.member name] = some part) :
    Alone (Path.matchesFrom none (.fields [name]) m) (m.location?.map (· ++ [.member name])) part := by
  have present : m.value.get? name = some part := by
    rw [Value.resolve?_cons] at leads
    obtain ⟨child, found, same⟩ := Option.bind_eq_some_iff.mp leads
    cases same
    cases value : m.value with
    | object members => rwa [value] at found
    | _ =>
      rw [value] at found
      cases found
  refine ⟨m.select (.field name) part, ?_, rfl, rfl, ?_⟩
  · simp [Path.matchesFrom, member?, present]
  · rw [location?_select]
    cases m.location? <;> rfl

theorem alone_index {n : Nat} (counts : index.toInt = n) (leads : m.value.resolve? [.element n] = some part) :
    Alone (Path.matchesFrom none (.index index) m) (m.location?.map (· ++ [.element n])) part := by
  rw [Value.resolve?_cons] at leads
  obtain ⟨child, found, same⟩ := Option.bind_eq_some_iff.mp leads
  cases same
  have again : Int64.ofNat n = index := by rw [← Int64.ofInt_eq_ofNat, ← counts, Int64.ofInt_toInt]
  cases value : m.value with
  | array items =>
    rw [value] at found
    have present : items[n]? = some part := found
    have inside : n < items.length := (List.getElem?_eq_some_iff.mp present).1
    have position : Slice.position? index items.length = some n := by
      have resolved : (if (n : Int) < 0 then (n : Int) + items.length else n) = n := if_neg (by omega)
      unfold Slice.position?
      dsimp only
      rw [counts, resolved, if_pos (by omega), Int.toNat_natCast]
    refine ⟨m.select (.index index) part, ?_, rfl, rfl, ?_⟩
    · simp [Path.matchesFrom, element, value, position, present, again]
    · rw [location?_select, value]
      cases m.location? <;> simp [stepFrom, counts]
  | _ =>
    rw [value] at found
    cases found

theorem alone_child {middle : Value} {first location : Option Location}
    (reached : Alone (left.matchesFrom labels m) first middle)
    (goesOn : ∀ next : Match, next.isLabel = false → next.value = middle → next.location? = first →
      Alone (right.matchesFrom labels next) location value) :
    Alone (Path.matchesFrom labels (.child left right) m) location value := by
  obtain ⟨next, only, real, holds, isAt⟩ := reached
  obtain ⟨found, alone, isReal, same, place⟩ := goesOn next real holds isAt
  refine ⟨found, ?_, isReal, same, place⟩
  rw [Path.matchesFrom, only]
  simp [real, alone]

theorem alone_downward (down : path.Downward) (real : m.isLabel = false)
    (steps : path.trail? = some location) (leads : m.value.resolve? location = some part) :
    Alone (path.matchesFrom none m) (m.location?.map (· ++ location)) part := by
  induction down generalizing m location part with
  | this =>
    cases steps
    cases leads
    refine ⟨m, rfl, real, rfl, ?_⟩
    cases m.location? <;> simp
  | field name =>
    cases steps
    exact alone_field leads
  | index i forward =>
    rw [Path.trail?, if_pos forward] at steps
    cases steps
    exact alone_index (Int.toNat_of_nonneg forward).symm leads
  | child first second ihFirst ihSecond =>
    obtain ⟨before, isFirst⟩ := first.trail
    obtain ⟨behind, isSecond⟩ := second.trail
    obtain ⟨middle, reached, goesOn, rfl⟩ := Path.leads_child isFirst isSecond steps leads
    refine alone_child (ihFirst real isFirst reached) fun next isReal holds isAt => ?_
    have behindIt := ihSecond isReal isSecond (holds ▸ goesOn)
    simpa [isAt, Function.comp_def] using behindIt

-- Such a path finds what is at the end of its steps, and nothing else.
theorem alone_find (top : path.FromTop) (steps : path.trail? = some location)
    (leads : tree.resolve? location = some part) : Alone (path.find none tree) (some location) part := by
  unfold Path.find
  induction top generalizing location part with
  | root =>
    cases steps
    cases leads
    exact ⟨_, rfl, rfl, rfl, rfl⟩
  | down down => exact alone_downward (m := start tree) down rfl steps leads
  | child first second ihFirst =>
    obtain ⟨before, isFirst⟩ := first.trail
    obtain ⟨behind, isSecond⟩ := second.trail
    obtain ⟨middle, reached, goesOn, rfl⟩ := Path.leads_child isFirst isSecond steps leads
    refine alone_child (ihFirst isFirst reached) fun next isReal holds isAt => ?_
    have behindIt := alone_downward second isReal isSecond (holds ▸ goesOn)
    rwa [isAt] at behindIt

end Match
end TreePath
