import TreePath.Value.Location
namespace TreePath.Value

variable {tree after part below value : Value} {step other : Step} {location place suffix : Location}
  {members : List (String × Value)} {items : List Value} {name key : String}

theorem lookup_insertMember_self : lookup name (insertMember name value members) = some value := by
  induction members with
  | nil => simp [insertMember, lookup]
  | cons member rest ih =>
    obtain ⟨key, old⟩ := member
    by_cases same : key = name
    · simp [insertMember, lookup, same]
    · simpa [insertMember, lookup, same] using ih

theorem lookup_insertMember_ne (ne : key ≠ name) :
    lookup key (insertMember name value members) = lookup key members := by
  induction members with
  | nil => simp [insertMember, lookup, ne.symm]
  | cons member rest ih =>
    obtain ⟨first, old⟩ := member
    by_cases same : first = name
    · have differs : first ≠ key := fun equal => ne (equal.symm.trans same)
      simp [insertMember, lookup, same, same ▸ differs]
    · by_cases here : first = key
      · simp [insertMember, lookup, here, here ▸ same]
      · simpa [insertMember, lookup, same, here] using ih

theorem mem_names : name ∈ members.map Prod.fst ↔ ∃ part, lookup name members = some part := by
  induction members with
  | nil => simp [lookup]
  | cons member rest ih =>
    obtain ⟨first, value⟩ := member
    by_cases same : first = name
    · simp [lookup, same]
    · simp [lookup, same, Ne.symm same, ← ih]

-- A member that is there keeps its place, so the names stay as they are.
theorem insertMember_names (found : lookup name members = some part) :
    (insertMember name value members).map Prod.fst = members.map Prod.fst := by
  induction members with
  | nil => simp [lookup] at found
  | cons member rest ih =>
    obtain ⟨first, old⟩ := member
    by_cases same : first = name
    · simp [insertMember, same]
    · have later : lookup name rest = some part := by simpa [lookup, same] using found
      simp [insertMember, same, ih later]

theorem insertMember_found (found : lookup name members = some part) :
    insertMember name part members = members := by
  induction members with
  | nil => simp [lookup] at found
  | cons member rest ih =>
    obtain ⟨first, old⟩ := member
    by_cases same : first = name
    · have equal : old = part := by simpa [lookup, same] using found
      simp [insertMember, same, equal]
    · have later : lookup name rest = some part := by simpa [lookup, same] using found
      simp [insertMember, same, ih later]

theorem insertMember_insertMember {old : Value} :
    insertMember name value (insertMember name old members) = insertMember name value members := by
  induction members with
  | nil => simp [insertMember]
  | cons member rest ih =>
    obtain ⟨first, before⟩ := member
    by_cases same : first = name
    · simp [insertMember, same]
    · simp [insertMember, same, ih]

-- What a write leaves alone in the containers above it.
inductive Shape where
  | members (names : List String)
  | elements (length : Nat)
deriving DecidableEq

def shape? : Value → Option Shape
  | object members => some (.members (members.map Prod.fst))
  | array items => some (.elements items.length)
  | _ => none

theorem setChild?_isSome (value : Value) (found : tree.child? step = some part) :
    ∃ after, tree.setChild? step value = some after := by
  cases tree <;> cases step <;> simp only [child?, reduceCtorEq] at found
  case array.element items position =>
    have inside : position < items.length := (List.getElem?_eq_some_iff.mp found).1
    exact ⟨array (items.set position value), by simp only [setChild?, inside, if_true]⟩
  case object.member members name =>
    exact ⟨object (insertMember name value members), by simp only [setChild?, found, Option.map_some]⟩

-- A write one step down: the part is there afterwards, its neighbours are as before, and the
-- container has kept its names or its length.
theorem setChild?_parts (changed : tree.setChild? step value = some after) :
    after.child? step = some value ∧ (∀ other, other ≠ step → after.child? other = tree.child? other) ∧
      ∃ shape, tree.shape? = some shape ∧ after.shape? = some shape := by
  cases tree <;> cases step <;> simp only [setChild?, reduceCtorEq] at changed
  case array.element items position =>
    split at changed
    · rename_i inside
      cases Option.some.inj changed
      refine ⟨by simp [child?, inside], ?_, _, rfl, by simp [shape?]⟩
      intro other ne
      cases other with
      | member name => rfl
      | element index =>
        have apart : position ≠ index := fun equal => ne (equal ▸ rfl)
        simp [child?, List.getElem?_set_ne apart]
    · cases changed
  case object.member members name =>
    obtain ⟨old, found, rfl⟩ := Option.map_eq_some_iff.mp changed
    refine ⟨lookup_insertMember_self, ?_, _, rfl, by simp [shape?, insertMember_names found]⟩
    intro other ne
    cases other with
    | element index => rfl
    | member key =>
      have apart : key ≠ name := fun equal => ne (equal ▸ rfl)
      exact lookup_insertMember_ne apart

theorem setChild?_found (found : tree.child? step = some part) : tree.setChild? step part = some tree := by
  cases tree <;> cases step <;> simp only [child?, reduceCtorEq] at found
  case array.element items position =>
    obtain ⟨inside, same⟩ := List.getElem?_eq_some_iff.mp found
    simp only [setChild?, inside, if_true, ← same, List.set_getElem_self]
  case object.member members name =>
    simp only [setChild?, found, Option.map_some, insertMember_found found]

-- A second write one step down replaces the first.
theorem setChild?_again {old : Value} (changed : tree.setChild? step old = some after) :
    after.setChild? step value = tree.setChild? step value := by
  cases tree <;> cases step <;> simp only [setChild?, reduceCtorEq] at changed
  case array.element items position =>
    split at changed
    · rename_i inside
      cases changed
      simp [setChild?, inside]
    · cases changed
  case object.member members name =>
    obtain ⟨part, found, rfl⟩ := Option.map_eq_some_iff.mp changed
    simp [setChild?, lookup_insertMember_self, found, insertMember_insertMember]

theorem shape?_of_child? (found : tree.child? step = some part) : ∃ shape, tree.shape? = some shape := by
  obtain ⟨after, changed⟩ := setChild?_isSome part found
  obtain ⟨_, _, shape, kept, _⟩ := setChild?_parts changed
  exact ⟨shape, kept⟩

@[simp] theorem resolve?_nil : tree.resolve? [] = some tree := rfl

theorem resolve?_cons :
    tree.resolve? (step :: location) = (tree.child? step).bind (·.resolve? location) := rfl

theorem resolve?_append :
    tree.resolve? (location ++ suffix) = (tree.resolve? location).bind (·.resolve? suffix) := by
  induction location generalizing tree with
  | nil => rfl
  | cons step rest ih =>
    simp only [List.cons_append, resolve?_cons, Option.bind_assoc]
    congr 1
    funext part
    exact ih

-- Whatever has something below it is a container.
theorem shape?_of_prefix (above : place <+: location) (proper : place ≠ location)
    (found : tree.resolve? location = some part) :
    ∃ shape, (tree.resolve? place).bind shape? = some shape := by
  obtain ⟨suffix, rfl⟩ := above
  rw [resolve?_append] at found
  obtain ⟨container, reached, found⟩ := Option.bind_eq_some_iff.mp found
  cases suffix with
  | nil => simp at proper
  | cons step rest =>
    obtain ⟨child, leads, _⟩ := Option.bind_eq_some_iff.mp found
    obtain ⟨shape, shaped⟩ := shape?_of_child? leads
    exact ⟨shape, by rw [reached, Option.bind_some, shaped]⟩

theorem write?_isSome (value : Value) (found : tree.resolve? location = some part) :
    ∃ after, tree.write? location value = some after := by
  induction location generalizing tree with
  | nil => exact ⟨value, rfl⟩
  | cons step rest ih =>
    rw [resolve?_cons] at found
    obtain ⟨below, reached, found⟩ := Option.bind_eq_some_iff.mp found
    obtain ⟨changed, inner⟩ := ih found
    obtain ⟨after, outer⟩ := setChild?_isSome changed reached
    exact ⟨after, by simp only [write?, reached, inner, outer, Option.bind_some]⟩

-- Writing what is there already changes nothing.
theorem write?_found (found : tree.resolve? location = some part) : tree.write? location part = some tree := by
  induction location generalizing tree with
  | nil => exact found.symm
  | cons step rest ih =>
    rw [resolve?_cons] at found
    obtain ⟨below, reached, found⟩ := Option.bind_eq_some_iff.mp found
    simp only [write?, reached, ih found, setChild?_found reached, Option.bind_some]

theorem write?_cons_parts (written : tree.write? (step :: location) value = some after) :
    ∃ below changed, tree.child? step = some below ∧ below.write? location value = some changed ∧
      tree.setChild? step changed = some after := by
  rw [write?] at written
  obtain ⟨below, reached, written⟩ := Option.bind_eq_some_iff.mp written
  obtain ⟨changed, inner, outer⟩ := Option.bind_eq_some_iff.mp written
  exact ⟨below, changed, reached, inner, outer⟩

theorem resolve?_of_write? (written : tree.write? location value = some after) :
    ∃ part, tree.resolve? location = some part := by
  induction location generalizing tree after with
  | nil => exact ⟨tree, rfl⟩
  | cons step rest ih =>
    obtain ⟨below, changed, reached, inner, _⟩ := write?_cons_parts written
    obtain ⟨part, found⟩ := ih inner
    exact ⟨part, by rw [resolve?_cons, reached, Option.bind_some, found]⟩

theorem resolve?_write?_below (written : tree.write? location value = some after) :
    after.resolve? (location ++ suffix) = value.resolve? suffix := by
  induction location generalizing tree after with
  | nil => cases Option.some.inj written; rfl
  | cons step rest ih =>
    obtain ⟨below, changed, _, inner, outer⟩ := write?_cons_parts written
    rw [List.cons_append, resolve?_cons, (setChild?_parts outer).1, Option.bind_some]
    exact ih inner

theorem resolve?_write?_self (written : tree.write? location value = some after) :
    after.resolve? location = some value := by
  have below : after.resolve? (location ++ []) = value.resolve? [] := resolve?_write?_below written
  rwa [List.append_nil] at below

-- Seen from above, a write is a write further down in the part there.
theorem resolve?_write?_above (written : tree.write? (location ++ suffix) value = some after) :
    ∃ part changed, tree.resolve? location = some part ∧ part.write? suffix value = some changed ∧
      after.resolve? location = some changed := by
  induction location generalizing tree after with
  | nil => exact ⟨tree, after, rfl, written, rfl⟩
  | cons step rest ih =>
    obtain ⟨below, changedBelow, reached, inner, outer⟩ := write?_cons_parts written
    obtain ⟨part, changed, found, writes, later⟩ := ih inner
    refine ⟨part, changed, ?_, writes, ?_⟩
    · rw [resolve?_cons, reached, Option.bind_some, found]
    · rw [resolve?_cons, (setChild?_parts outer).1, Option.bind_some, later]

-- To write a part, and then into it, is to write the part with that in it.
theorem write?_write?_below {middle changed : Value} (outer : tree.write? location part = some middle)
    (inner : part.write? suffix value = some changed) :
    middle.write? (location ++ suffix) value = tree.write? location changed := by
  induction location generalizing tree middle with
  | nil =>
    cases outer
    exact inner
  | cons step rest ih =>
    obtain ⟨below, new, reached, written, set⟩ := write?_cons_parts outer
    simp only [List.cons_append, write?, (setChild?_parts set).1, reached, Option.bind_some, ih written,
      setChild?_again set]

theorem write?_again (written : tree.write? location part = some after) (value : Value) :
    after.write? location value = tree.write? location value := by
  have below : after.write? (location ++ []) value = tree.write? location value := write?_write?_below written rfl
  rwa [List.append_nil] at below

theorem isSome_write?_iff (value : Value) :
    (tree.write? location value).isSome ↔ (tree.resolve? location).isSome := by
  simp only [Option.isSome_iff_exists]
  exact ⟨fun ⟨_, written⟩ => resolve?_of_write? written, fun ⟨_, found⟩ => write?_isSome value found⟩

-- The induction is on the location written; the first step at which the other location leaves it
-- decides, since below that step neither of them sees the other.
theorem resolve?_write?_apart (written : tree.write? location value = some after)
    (notBelow : ¬location <+: place) (notAbove : ¬place <+: location) :
    after.resolve? place = tree.resolve? place := by
  induction location generalizing tree after place with
  | nil => exact absurd List.nil_prefix notBelow
  | cons step rest ih =>
    obtain ⟨below, changed, reached, inner, outer⟩ := write?_cons_parts written
    obtain ⟨own, others, _⟩ := setChild?_parts outer
    cases place with
    | nil => exact absurd List.nil_prefix notAbove
    | cons first later =>
      by_cases same : first = step
      · subst same
        have notBelow : ¬rest <+: later := fun h => notBelow (List.cons_prefix_cons.mpr ⟨rfl, h⟩)
        have notAbove : ¬later <+: rest := fun h => notAbove (List.cons_prefix_cons.mpr ⟨rfl, h⟩)
        simp only [resolve?_cons, own, reached, Option.bind_some]
        exact ih inner notBelow notAbove
      · simp only [resolve?_cons, others first same]

-- A write keeps the shape of every container above it.
theorem shape?_write?_above (written : tree.write? location value = some after)
    (above : place <+: location) (proper : place ≠ location) :
    ∃ shape, (tree.resolve? place).bind shape? = some shape ∧
      (after.resolve? place).bind shape? = some shape := by
  induction place generalizing tree after location with
  | nil =>
    cases location with
    | nil => exact absurd rfl proper
    | cons step rest =>
      obtain ⟨below, changed, _, _, outer⟩ := write?_cons_parts written
      exact (setChild?_parts outer).2.2
  | cons first later ih =>
    cases location with
    | nil => exact absurd (List.prefix_nil.mp above) (List.cons_ne_nil _ _)
    | cons step rest =>
      obtain ⟨rfl, nearer⟩ := List.cons_prefix_cons.mp above
      obtain ⟨below, changed, reached, inner, outer⟩ := write?_cons_parts written
      have proper : later ≠ rest := fun same => proper (same ▸ rfl)
      simp only [resolve?_cons, (setChild?_parts outer).1, reached, Option.bind_some]
      exact ih inner nearer proper

-- A location is a lens on the trees that have it: what is written there is found there, with its parts below it,
-- to write what is found changes nothing, and the last of two writes counts. Nothing else of the tree changes than
-- what is at the location, and the containers above it in that part of theirs.
theorem write?_lens (tree : Value) (location : Location) (value : Value) :
    ((tree.write? location value).isSome ↔ (tree.resolve? location).isSome) ∧
    (∀ part, tree.resolve? location = some part → tree.write? location part = some tree) ∧
    ∀ after, tree.write? location value = some after →
      after.resolve? location = some value ∧
      (∀ other, after.write? location other = tree.write? location other) ∧
      (∀ place, ¬location <+: place → ¬place <+: location → after.resolve? place = tree.resolve? place) ∧
      (∀ suffix, after.resolve? (location ++ suffix) = value.resolve? suffix) ∧
      ∀ place, place <+: location → place ≠ location → ∃ shape,
        (tree.resolve? place).bind shape? = some shape ∧ (after.resolve? place).bind shape? = some shape := by
  refine ⟨isSome_write?_iff value, fun part found => write?_found found, fun after written => ?_⟩
  refine ⟨resolve?_write?_self written, write?_again written, ?_, ?_, ?_⟩
  · exact fun place notBelow notAbove => resolve?_write?_apart written notBelow notAbove
  · exact fun suffix => resolve?_write?_below written
  · exact fun place above proper => shape?_write?_above written above proper

-- A write below two containers, seen from a neighbour and from the root.
theorem write?_lens_nested :
    let tree : Value := .object [("a", .array [.integer 1, .object [("b", .null)]]), ("c", .boolean true)]
    let location : Location := [.member "a", .element 1, .member "b"]
    ∃ after, tree.write? location (.array []) = some after ∧ after.resolve? location = some (.array []) ∧
      after.write? location .null = some tree ∧ after.resolve? [.member "a", .element 0] = some (.integer 1) ∧
      after.shape? = some (.members ["a", "c"]) := by
  intro tree location
  obtain ⟨exists_iff, _, changes⟩ := write?_lens tree location (.array [])
  obtain ⟨after, written⟩ := Option.isSome_iff_exists.mp (exists_iff.mpr rfl)
  obtain ⟨found, again, apart, _, above⟩ := changes after written
  obtain ⟨shape, before, kept⟩ := above [] List.nil_prefix (List.cons_ne_nil _ _).symm
  refine ⟨after, written, found, (again .null).trans rfl, ?_, kept.trans before.symm⟩
  exact (apart [.member "a", .element 0] (by decide) (by decide)).trans rfl

end TreePath.Value
