import TreePath.Number.Integer
import TreePath.Proofs.Value.Lens
namespace TreePath.Value

variable {tree part item : Value} {step : Step} {location : Location}
  {members : List (String × Value)} {items : List Value} {name : String} {position : Nat}

mutual
-- Whether no array anywhere in the tree has more elements than a 64-bit integer counts.
def Sized : Value → Prop
  | array items => (items.length : Int) ≤ Integer.highest ∧ ItemsSized items
  | object members => MembersSized members
  | _ => True

def ItemsSized : List Value → Prop
  | [] => True
  | item :: rest => Sized item ∧ ItemsSized rest

def MembersSized : List (String × Value) → Prop
  | [] => True
  | (_, value) :: rest => Sized value ∧ MembersSized rest
end

-- What holds of every tree that can be read or built in memory.
structure WellFormed (tree : Value) : Prop where
  uniqueNames : tree.UniqueNames
  sized : tree.Sized

theorem lookup_of_mem (unique : (members.map Prod.fst).Nodup) (present : (name, part) ∈ members) :
    lookup name members = some part := by
  induction members with
  | nil => cases present
  | cons member rest ih =>
    obtain ⟨first, value⟩ := member
    simp only [List.map_cons, List.nodup_cons] at unique
    rcases List.mem_cons.mp present with equal | later
    · cases equal
      simp [lookup]
    · have differs : first ≠ name := by
        rintro rfl
        exact unique.1 (List.mem_map.mpr ⟨_, later, rfl⟩)
      simp [lookup, differs, ih unique.2 later]

theorem mem_of_lookup (found : lookup name members = some part) : (name, part) ∈ members := by
  induction members with
  | nil => simp [lookup] at found
  | cons member rest ih =>
    obtain ⟨first, value⟩ := member
    by_cases same : first = name
    · have equal : value = part := by simpa [lookup, same] using found
      simp [same, equal]
    · have later : lookup name rest = some part := by simpa [lookup, same] using found
      exact List.mem_cons_of_mem _ (ih later)

theorem itemsUnique_iff : ItemsUnique items ↔ ∀ item ∈ items, item.UniqueNames :=
  forall_mem_of_parts trivial fun _ _ => .rfl

theorem membersUnique_iff : MembersUnique members ↔ ∀ member ∈ members, member.2.UniqueNames :=
  forall_mem_of_parts trivial fun _ _ => .rfl

theorem itemsSized_iff : ItemsSized items ↔ ∀ item ∈ items, item.Sized :=
  forall_mem_of_parts trivial fun _ _ => .rfl

theorem membersSized_iff : MembersSized members ↔ ∀ member ∈ members, member.2.Sized :=
  forall_mem_of_parts trivial fun _ _ => .rfl

-- What the parts of a container have to be, and the container itself.
theorem wellFormed_array : (array items).WellFormed ↔
    (items.length : Int) ≤ Integer.highest ∧ ∀ item ∈ items, item.WellFormed := by
  constructor
  · rintro ⟨unique, sized⟩
    rw [UniqueNames, itemsUnique_iff] at unique
    rw [Sized, itemsSized_iff] at sized
    exact ⟨sized.1, fun item here => ⟨unique item here, sized.2 item here⟩⟩
  · rintro ⟨bound, parts⟩
    constructor
    · rw [UniqueNames, itemsUnique_iff]
      exact fun item here => (parts item here).uniqueNames
    · rw [Sized, itemsSized_iff]
      exact ⟨bound, fun item here => (parts item here).sized⟩

theorem wellFormed_object : (object members).WellFormed ↔
    (members.map Prod.fst).Nodup ∧ ∀ member ∈ members, member.2.WellFormed := by
  constructor
  · rintro ⟨unique, sized⟩
    rw [UniqueNames, membersUnique_iff] at unique
    rw [Sized, membersSized_iff] at sized
    exact ⟨unique.1, fun member here => ⟨unique.2 member here, sized member here⟩⟩
  · rintro ⟨names, parts⟩
    constructor
    · rw [UniqueNames, membersUnique_iff]
      exact ⟨names, fun member here => (parts member here).uniqueNames⟩
    · rw [Sized, membersSized_iff]
      exact fun member here => (parts member here).sized

theorem WellFormed.child (valid : tree.WellFormed) (found : tree.child? step = some part) :
    part.WellFormed := by
  cases tree <;> cases step <;> simp only [child?, reduceCtorEq] at found
  case array.element items position => exact (wellFormed_array.mp valid).2 part (List.mem_of_getElem? found)
  case object.member members name => exact (wellFormed_object.mp valid).2 (name, part) (mem_of_lookup found)

theorem WellFormed.resolve (valid : tree.WellFormed) (found : tree.resolve? location = some part) :
    part.WellFormed := by
  induction location generalizing tree with
  | nil => cases Option.some.inj found; exact valid
  | cons step rest ih =>
    rw [resolve?_cons] at found
    obtain ⟨below, reached, found⟩ := Option.bind_eq_some_iff.mp found
    exact ih (valid.child reached) found

theorem WellFormed.lookup_of_mem (valid : (object members).WellFormed)
    (present : (name, part) ∈ members) : lookup name members = some part :=
  Value.lookup_of_mem (wellFormed_object.mp valid).1 present

-- A position in an array is a 64-bit integer that is not negative.
theorem WellFormed.position_toInt (valid : (array items).WellFormed)
    (present : items[position]? = some part) : (Int64.ofNat position).toInt = position := by
  have inside : position < items.length := (List.getElem?_eq_some_iff.mp present).1
  have bound : (items.length : Int) ≤ 9223372036854775807 := (wellFormed_array.mp valid).1
  exact Int64.toInt_ofNat_of_lt (by omega)

theorem mem_insertMember {member : String × Value} (present : member ∈ insertMember name part members) :
    member = (name, part) ∨ member ∈ members := by
  induction members with
  | nil => exact .inl (List.mem_singleton.mp present)
  | cons first rest ih =>
    obtain ⟨key, value⟩ := first
    by_cases same : key = name
    · rw [insertMember, if_pos same] at present
      rcases List.mem_cons.mp present with rfl | later
      · exact .inl (by rw [same])
      · exact .inr (List.mem_cons_of_mem _ later)
    · rw [insertMember, if_neg same] at present
      rcases List.mem_cons.mp present with rfl | later
      · exact .inr List.mem_cons_self
      · exact (ih later).imp_right (List.mem_cons_of_mem _)

theorem WellFormed.setChild {after : Value} (valid : tree.WellFormed) (validPart : part.WellFormed)
    (changed : tree.setChild? step part = some after) : after.WellFormed := by
  cases tree <;> cases step <;> simp only [setChild?, reduceCtorEq] at changed
  case array.element items position =>
    split at changed
    · cases changed
      obtain ⟨bound, parts⟩ := wellFormed_array.mp valid
      refine wellFormed_array.mpr ⟨by rwa [List.length_set], fun item here => ?_⟩
      rcases List.mem_or_eq_of_mem_set here with old | rfl
      · exact parts item old
      · exact validPart
    · cases changed
  case object.member members name =>
    obtain ⟨old, found, rfl⟩ := Option.map_eq_some_iff.mp changed
    obtain ⟨names, parts⟩ := wellFormed_object.mp valid
    refine wellFormed_object.mpr ⟨by rwa [insertMember_names found], fun member here => ?_⟩
    rcases mem_insertMember here with rfl | old
    · exact validPart
    · exact parts member old

theorem WellFormed.write {after value : Value} (valid : tree.WellFormed) (validValue : value.WellFormed)
    (written : tree.write? location value = some after) : after.WellFormed := by
  induction location generalizing tree after with
  | nil =>
    cases written
    exact validValue
  | cons step rest ih =>
    obtain ⟨below, changed, reached, inner, outer⟩ := write?_cons_parts written
    exact valid.setChild (ih (valid.child reached) inner) outer

theorem members_ext {before after : List (String × Value)} (unique : (before.map Prod.fst).Nodup)
    (names : before.map Prod.fst = after.map Prod.fst) (same : ∀ name, lookup name before = lookup name after) :
    before = after := by
  induction before generalizing after with
  | nil => exact (List.map_eq_nil_iff.mp names.symm).symm
  | cons member rest ih =>
    obtain ⟨name, value⟩ := member
    obtain ⟨⟨key, other⟩, later, rfl, rfl, restNames⟩ := List.map_eq_cons_iff.mp names.symm
    obtain ⟨fresh, restUnique⟩ := List.nodup_cons.mp unique
    have here : value = other := by simpa [lookup] using same key
    refine here ▸ congrArg _ (ih restUnique restNames.symm fun each => ?_)
    by_cases first : key = each
    · subst first
      have absent : ∀ members : List (String × Value),
          key ∉ members.map Prod.fst → lookup key members = none := by
        intro members apart
        cases found : lookup key members with
        | none => rfl
        | some part => exact absurd (mem_names.mpr ⟨part, found⟩) apart
      rw [absent rest fresh, absent later (restNames ▸ fresh)]
    · simpa [lookup, first] using same each

theorem eq_of_children {after : Value} (valid : tree.WellFormed)
    (shaped : ∃ shape, tree.shape? = some shape ∧ after.shape? = some shape)
    (same : ∀ step, tree.child? step = after.child? step) : tree = after := by
  obtain ⟨shape, isContainer, sameShape⟩ := shaped
  cases tree with
  | array items =>
    cases isContainer
    cases after with
    | array others => exact congrArg array (List.ext_getElem? fun position => same (.element position))
    | _ => cases sameShape
  | object members =>
    cases isContainer
    cases after with
    | object others =>
      have names : others.map Prod.fst = members.map Prod.fst := Shape.members.inj (Option.some.inj sameShape)
      exact congrArg object
        (members_ext (wellFormed_object.mp valid).1 names.symm fun name => same (.member name))
    | _ => cases sameShape
  | _ => cases isContainer

theorem sizeOf_child (found : tree.child? step = some part) : sizeOf part < sizeOf tree := by
  cases tree <;> cases step <;> simp only [child?, reduceCtorEq] at found
  case array.element items position =>
    have smaller := List.sizeOf_lt_of_mem (List.mem_of_getElem? found)
    simp only [array.sizeOf_spec]
    omega
  case object.member members name =>
    have smaller := List.sizeOf_lt_of_mem (mem_of_lookup found)
    simp only [object.sizeOf_spec, Prod.mk.sizeOf_spec] at smaller ⊢
    omega

-- Two trees are the same if they hold the same in every place, or containers of the same shape.
theorem eq_of_agree {tree after : Value} (valid : tree.WellFormed)
    (agree : ∀ place, after.resolve? place = tree.resolve? place ∨ ∃ shape,
      (tree.resolve? place).bind shape? = some shape ∧ (after.resolve? place).bind shape? = some shape) :
    tree = after := by
  rcases agree [] with same | shaped
  · exact (Option.some.inj same).symm
  · refine eq_of_children valid shaped fun step => ?_
    cases here : tree.child? step with
    | none =>
      cases there : after.child? step with
      | none => rfl
      | some new =>
        rcases agree [step] with same | ⟨shape, found, _⟩
        · simp [resolve?_cons, here, there] at same
        · simp [resolve?_cons, here] at found
    | some old =>
      cases there : after.child? step with
      | none =>
        rcases agree [step] with same | ⟨shape, _, found⟩
        · simp [resolve?_cons, here, there] at same
        · simp [resolve?_cons, there] at found
      | some new =>
        have smaller := sizeOf_child here
        refine congrArg some (eq_of_agree (valid.child here) fun place => ?_)
        simpa [resolve?_cons, here, there] using agree (step :: place)
termination_by sizeOf tree

end TreePath.Value
