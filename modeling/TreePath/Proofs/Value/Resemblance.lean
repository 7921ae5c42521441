import TreePath.Proofs.Value.Lens
namespace TreePath.Value

variable {a b part other value before after : Value} {location place above between below : Location} {step : Step}
  {shape : Shape} {items : List Value} {members : List (String × Value)} {indexes : Bool} {places : Location → Prop}

-- What an index reads as its own one element.
def IsSingle (value : Value) : Prop :=
  value.isArray = false ∧ value.isNull = false

theorem array_of_shape (same : (array items).shape? = b.shape?) :
    ∃ others, b = array others ∧ others.length = items.length := by
  cases b with
  | array others => exact ⟨others, rfl, (Shape.elements.inj (Option.some.inj same)).symm⟩
  | _ => cases same

theorem object_of_shape (same : (object members).shape? = b.shape?) :
    ∃ others, b = object others ∧ others.map Prod.fst = members.map Prod.fst := by
  cases b with
  | object others => exact ⟨others, rfl, (Shape.members.inj (Option.some.inj same)).symm⟩
  | _ => cases same

theorem child?_of_shape (same : a.shape? = b.shape?) (found : a.child? step = some part) :
    ∃ other, b.child? step = some other := by
  cases a <;> cases step <;> simp only [child?, reduceCtorEq] at found
  case array.element items position =>
    obtain ⟨others, rfl, lengths⟩ := array_of_shape same
    have inside : position < items.length := (List.getElem?_eq_some_iff.mp found).1
    exact ⟨_, List.getElem?_eq_getElem (lengths ▸ inside)⟩
  case object.member members name =>
    obtain ⟨others, rfl, names⟩ := object_of_shape same
    exact mem_names.mp (names ▸ mem_names.mpr ⟨part, found⟩)

theorem isSingle_of_shape (shaped : a.shape? = some shape) (same : b.shape? = some shape) (single : a.IsSingle) :
    b.IsSingle := by
  cases a with
  | array items => cases single.1
  | object members =>
    obtain ⟨others, rfl, _⟩ := object_of_shape (shaped.trans same.symm)
    exact ⟨rfl, rfl⟩
  | _ => cases shaped

theorem isNull_of_shape (shaped : a.shape? = some shape) : a.isNull = false := by
  cases a with
  | null => cases shaped
  | _ => rfl

-- Above the location the containers have the same shape in both; and if indices matter, what the first has
-- at the location is read as its own element only if that is so in the second.
structure Resembles (indexes : Bool) (a b : Value) (location : Location) : Prop where
  above : ∀ place, place <+: location → place ≠ location →
    (a.resolve? place).bind shape? = (b.resolve? place).bind shape?
  single : indexes = true → ∀ part, a.resolve? location = some part → part.IsSingle →
    ∃ other, b.resolve? location = some other ∧ other.IsSingle

namespace Resembles

theorem refl : Resembles indexes a a location :=
  ⟨fun _ _ _ => rfl, fun _ part leads single => ⟨part, leads, single⟩⟩

theorem outer (resembles : Resembles indexes a b (step :: location)) : a.shape? = b.shape? :=
  resembles.above [] List.nil_prefix nofun

theorem notSingle (resembles : Resembles indexes a b (step :: location)) (isArray : a = array items) :
    ¬b.IsSingle := by
  obtain ⟨others, rfl, _⟩ := array_of_shape (isArray ▸ resembles.outer)
  exact fun single => nomatch single.1

theorem notArray (resembles : Resembles indexes a b []) (allowed : indexes = true) (single : a.IsSingle) :
    b ≠ array items := by
  obtain ⟨other, leads, singleToo⟩ := resembles.single allowed a rfl single
  cases leads
  rintro rfl
  cases singleToo.1

theorem child (resembles : Resembles indexes a b (step :: location)) (found : a.child? step = some part)
    (foundToo : b.child? step = some other) : Resembles indexes part other location := by
  constructor
  · intro place above proper
    have longer := resembles.above (step :: place) (List.cons_prefix_cons.mpr ⟨rfl, above⟩) (by simpa using proper)
    simpa [resolve?_cons, found, foundToo] using longer
  · intro matter part leads single
    have longer := resembles.single matter part (by simpa [resolve?_cons, found] using leads) single
    simpa [resolve?_cons, foundToo] using longer

theorem resolves (resembles : Resembles indexes a b location) (leads : a.resolve? location = some part) :
    ∃ other, b.resolve? location = some other := by
  induction location generalizing a b with
  | nil => exact ⟨b, rfl⟩
  | cons step rest ih =>
    rw [resolve?_cons] at leads
    obtain ⟨child, found, leads⟩ := Option.bind_eq_some_iff.mp leads
    obtain ⟨childToo, foundToo⟩ := child?_of_shape resembles.outer found
    obtain ⟨other, further⟩ := ih (resembles.child found foundToo) leads
    exact ⟨other, by rw [resolve?_cons, foundToo, Option.bind_some, further]⟩

theorem onward (resembles : Resembles indexes a b (above ++ below)) (leads : a.resolve? above = some part)
    (leadsToo : b.resolve? above = some other) : Resembles indexes part other below := by
  constructor
  · intro place upper proper
    have longer := resembles.above (above ++ place) ((List.prefix_append_right_inj above).mpr upper)
      (by simpa using proper)
    simpa [resolve?_append, leads, leadsToo] using longer
  · intro matter inner further single
    have longer := resembles.single matter inner (by rw [resolve?_append, leads]; exact further) single
    simpa [resolve?_append, leadsToo] using longer

-- There is something further down, so that what is in between is a container in both.
theorem upTo (resembles : Resembles indexes a b (above ++ below)) (leads : a.resolve? above = some part)
    (further : part.resolve? below = some value) : Resembles indexes a b above := by
  refine ⟨fun place upper proper => ?_, fun matter inner here single => ?_⟩
  · refine resembles.above place (upper.trans (List.prefix_append above below)) fun same => proper ?_
    subst same
    exact upper.eq_of_length (Nat.le_antisymm upper.length_le (by simp))
  · cases below with
    | nil =>
      rw [List.append_nil] at resembles
      exact resembles.single matter inner here single
    | cons step rest =>
      cases leads.symm.trans here
      rw [resolve?_cons] at further
      obtain ⟨child, found, _⟩ := Option.bind_eq_some_iff.mp further
      obtain ⟨shape, shaped⟩ := shape?_of_child? found
      have same := resembles.above above (List.prefix_append _ _) (by simp)
      rw [leads, Option.bind_some, shaped] at same
      obtain ⟨other, leadsToo, sameShape⟩ := Option.bind_eq_some_iff.mp same.symm
      exact ⟨other, leadsToo, isSingle_of_shape shaped sameShape single⟩

-- On the way down past a location to what is further below.
theorem through (resembles : Resembles indexes a b (above ++ between ++ below))
    (leads : a.resolve? (above ++ between) = some part) (further : part.resolve? below = some value) :
    Resembles indexes a b above ∧
      ∃ other, b.resolve? (above ++ between) = some other ∧ Resembles indexes part other below := by
  have middle := resembles.upTo leads further
  obtain ⟨outer, reached, deeper⟩ := Option.bind_eq_some_iff.mp (resolve?_append.symm.trans leads)
  obtain ⟨other, leadsToo⟩ := middle.resolves leads
  exact ⟨middle.upTo reached deeper, other, leadsToo, resembles.onward leads leadsToo⟩

end Resembles

-- Whatever is neither at, below nor above a place is as before, and what is not at or below one has kept its
-- shape.
structure Rewritten (before after : Value) (places : Location → Prop) : Prop where
  present : ∀ place, places place → ∃ part, before.resolve? place = some part
  apart : ∀ location, (∀ place, places place → ¬place <+: location ∧ ¬location <+: place) →
    after.resolve? location = before.resolve? location
  shape : ∀ location, (∀ place, places place → ¬place <+: location) →
    (after.resolve? location).bind shape? = (before.resolve? location).bind shape?

namespace Rewritten

-- Within a part that is not itself rewritten.
theorem inside (rewritten : Rewritten before after places) (outside : ∀ place, places place → ¬place <+: above)
    (leads : before.resolve? above = some part) (leadsToo : after.resolve? above = some other) :
    Rewritten part other fun place => places (above ++ place) := by
  have longer : ∀ location, (∀ place, places (above ++ place) → ¬place <+: location) →
      ∀ place, places place → ¬place <+: above ++ location := by
    intro location beyond place isPlace upper
    rcases List.prefix_or_prefix_of_prefix upper (List.prefix_append above location) with h | ⟨below, rfl⟩
    · exact outside place isPlace h
    · exact beyond below isPlace ((List.prefix_append_right_inj above).mp upper)
  refine ⟨fun place isPlace => ?_, fun location beyond => ?_, fun location beyond => ?_⟩
  · obtain ⟨inner, found⟩ := rewritten.present _ isPlace
    rw [Value.resolve?_append, leads] at found
    exact ⟨inner, found⟩
  · have same := rewritten.apart (above ++ location) fun place isPlace =>
      ⟨longer location (fun place isPlace => (beyond place isPlace).1) place isPlace, fun lower => by
        obtain ⟨below, rfl⟩ := (List.prefix_append above location).trans lower
        exact (beyond below isPlace).2 ((List.prefix_append_right_inj above).mp lower)⟩
    simpa [Value.resolve?_append, leads, leadsToo] using same
  · have same := rewritten.shape (above ++ location) (longer location beyond)
    simpa [Value.resolve?_append, leads, leadsToo] using same

-- On the way to what is not rewritten.
theorem resembles (rewritten : Rewritten before after places)
    (outside : ∀ place, places place → ¬place <+: location) : Resembles indexes after before location := by
  refine ⟨fun upper above _ => rewritten.shape upper fun place isPlace h => outside place isPlace (h.trans above),
    fun _ part leads single => ?_⟩
  by_cases within : ∃ place, places place ∧ location <+: place
  · obtain ⟨place, isPlace, above⟩ := within
    obtain ⟨inner, found⟩ := rewritten.present place isPlace
    have proper : location ≠ place := fun same => outside place isPlace (same ▸ List.prefix_rfl)
    obtain ⟨shape, shaped⟩ := shape?_of_prefix above proper found
    obtain ⟨other, leadsToo, otherShape⟩ := Option.bind_eq_some_iff.mp shaped
    have same := rewritten.shape location outside
    rw [leads, shaped, Option.bind_some] at same
    exact ⟨other, leadsToo, isSingle_of_shape same otherShape single⟩
  · have same := rewritten.apart location fun place isPlace =>
      ⟨outside place isPlace, fun below => within ⟨place, isPlace, below⟩⟩
    exact ⟨part, same.symm.trans leads, single⟩

-- On the way to an outermost place.
theorem resembles_at (rewritten : Rewritten before after places) (outermost : ∀ place, places place →
      place <+: location → place = location) (leads : after.resolve? location = some value)
    (single : indexes = true → value.IsSingle) : Resembles indexes before after location := by
  refine ⟨fun upper above proper => (rewritten.shape upper fun place isPlace h => proper ?_).symm,
    fun matter _ _ _ => ⟨value, leads, single matter⟩⟩
  have same := outermost place isPlace (h.trans above)
  exact above.eq_of_length (Nat.le_antisymm above.length_le (same ▸ h.length_le))

end Rewritten

end TreePath.Value
