import TreePath.Edit.Create
import TreePath.Proofs.Match.Trail
namespace TreePath

variable {α : Type} {labels : Option String} {path left right : Path} {tree before after part value : Value}
  {location inner place : Location} {members : List (String × Value)} {items : List Value} {name : String}
  {index : Int64} {trail : Option Location}

namespace Value

-- What may still become a container of either kind.
def isBlank : Value → Bool
  | null => true
  | object [] => true
  | _ => false

-- All that was in the tree is there as it was, save the containers above the location.
def Grows (before after : Value) (location : Location) : Prop :=
  ∀ place part, before.resolve? place = some part → (place <+: location → place = location) →
    after.resolve? place = some part

theorem Grows.refl : Grows tree tree location :=
  fun _ _ found _ => found

theorem grows_step {step : Step}
    (kept : ∀ other part, tree.child? other = some part → after.child? other = some part) :
    Grows tree after [step] := by
  intro place part found below
  cases place with
  | nil => cases below List.nil_prefix
  | cons first rest =>
    rw [resolve?_cons] at found ⊢
    obtain ⟨child, leads, found⟩ := Option.bind_eq_some_iff.mp found
    rw [kept first child leads, Option.bind_some, found]

theorem Grows.inside (outer : Grows before after location) (leads : after.resolve? location = some part)
    (found : before.resolve? (location ++ inner) = some value) : part.resolve? inner = some value := by
  have reached := outer _ _ found fun above => above.eq_of_length (Nat.le_antisymm above.length_le (by simp))
  rwa [resolve?_append, leads, Option.bind_some] at reached

-- Growing a part that has been reached, and putting it back.
theorem Grows.below {middle grown : Value} (outer : Grows before middle location)
    (leads : middle.resolve? location = some part) (inside : Grows part grown inner)
    (written : middle.write? location grown = some after) : Grows before after (location ++ inner) := by
  intro place value found below
  by_cases isBelow : location <+: place
  · obtain ⟨suffix, rfl⟩ := isBelow
    rw [resolve?_write?_below written]
    refine inside _ _ (outer.inside leads found) fun above => ?_
    have same := below ((List.prefix_append_right_inj location).mpr above)
    exact List.append_cancel_left same
  · have notAbove : ¬place <+: location := by
      intro above
      have same := below (above.trans (List.prefix_append location inner))
      exact isBelow (same ▸ List.prefix_append location inner)
    rw [resolve?_write?_apart written isBelow notAbove]
    exact outer _ _ found fun above => absurd above notAbove

theorem isBlank_cases (blank : tree.isBlank = true) : tree = null ∨ tree = object [] := by
  unfold isBlank at blank
  split at blank
  · exact .inl rfl
  · exact .inr rfl
  · cases blank

theorem child?_blank {step : Step} (blank : tree.isBlank = true) : tree.child? step = none := by
  rcases isBlank_cases blank with rfl | rfl
  · cases step <;> rfl
  · cases step <;> rfl

theorem asMembers_ok (made : tree.asMembers = .ok members) :
    tree = object members ∨ tree.isBlank = true ∧ members = [] := by
  cases tree <;> cases made
  · exact .inr ⟨rfl, rfl⟩
  · exact .inl rfl

theorem asMembers_error {error : CreateError} (refused : tree.asMembers = .error error) :
    tree.isBlank = false := by
  cases tree <;> first | rfl | cases refused

theorem asItems_ok (made : tree.asItems = .ok items) :
    tree = array items ∨ tree.isBlank = true ∧ items = [] := by
  unfold asItems at made
  split at made <;> cases made
  · exact .inr ⟨rfl, rfl⟩
  · exact .inr ⟨rfl, rfl⟩
  · exact .inl rfl

theorem asItems_error {error : CreateError} (refused : tree.asItems = .error error) :
    tree.isBlank = false := by
  cases blank : tree.isBlank with
  | false => rfl
  | true => rcases isBlank_cases blank with rfl | rfl <;> cases refused

theorem asMembers_child {step : Step} (made : tree.asMembers = .ok members)
    (found : tree.child? step = some part) :
    ∃ key, step = .member key ∧ lookup key members = some part := by
  rcases asMembers_ok made with rfl | ⟨blank, rfl⟩
  · cases step with
    | member key => exact ⟨key, rfl, found⟩
    | element position => cases found
  · rw [child?_blank blank] at found
    cases found

theorem asItems_child {step : Step} (made : tree.asItems = .ok items)
    (found : tree.child? step = some part) :
    ∃ position, step = .element position ∧ items[position]? = some part := by
  rcases asItems_ok made with rfl | ⟨blank, rfl⟩
  · cases step with
    | member key => cases found
    | element position => exact ⟨position, rfl, found⟩
  · rw [child?_blank blank] at found
    cases found

end Value

open Value

theorem ensureMembers_found (found : lookup name members = some part) :
    ensureMembers [name] members = members := by
  simp only [ensureMembers, found]

theorem ensureMembers_missing (missing : lookup name members = none) :
    ensureMembers [name] members = insertMember name placeholder members := by
  simp only [ensureMembers, missing]

theorem lookup_ensureMembers {key : String} (found : lookup key members = some part) :
    lookup key (ensureMembers [name] members) = some part := by
  cases present : lookup name members with
  | some own => rw [ensureMembers_found present, found]
  | none =>
    have ne : key ≠ name := by
      rintro rfl
      rw [present] at found
      cases found
    rw [ensureMembers_missing present, lookup_insertMember_ne ne, found]

-- What reaching along a path comes to. If it is refused nothing has changed, and there was something
-- in the way; otherwise it leads to one part at most, and that part is either a blank or was reached
-- without a change.
inductive Reached (trail : Option Location) (tree : Value) : Attempt (List Location) → Prop where
  | refused (error : CreateError) (filled : tree.isBlank = false) : Reached trail tree (tree, .error error)
  | nowhere (after : Value) (varies : trail = none) : Reached trail tree (after, .ok [])
  | somewhere (after part : Value) (location : Location) (leads : after.resolve? location = some part)
      (fixed : ∀ steps ∈ trail, location = steps) (grows : Grows tree after location)
      (fresh : part.isBlank = true ∨ after = tree ∧ tree.isBlank = false) :
      Reached trail tree (after, .ok [location])

theorem reached_here : Reached (some []) tree (tree, .ok [[]]) := by
  refine .somewhere _ tree _ rfl (fun steps here => ?_) Grows.refl ?_
  · cases here
    rfl
  · cases tree.isBlank with
    | true => exact .inl rfl
    | false => exact .inr ⟨rfl, rfl⟩

theorem reached_field : Reached (some [.member name]) tree (Path.reach labels (.fields [name]) tree) := by
  unfold Path.reach
  cases made : tree.asMembers with
  | error error => exact .refused error (asMembers_error made)
  | ok members =>
    have fixed : ∀ steps ∈ some [Step.member name], [Step.member name] = steps := by
      rintro steps ⟨⟩
      rfl
    have kept : ∀ other part, tree.child? other = some part →
        (object (ensureMembers [name] members)).child? other = some part := by
      intro other part found
      obtain ⟨key, rfl, present⟩ := asMembers_child made found
      exact lookup_ensureMembers present
    cases present : lookup name members with
    | some part =>
      refine .somewhere _ part _ ?_ fixed (grows_step kept) (.inr ?_)
      · simp [ensureMembers_found present, resolve?_cons, child?, present]
      · rw [ensureMembers_found present]
        rcases asMembers_ok made with rfl | ⟨_, rfl⟩
        · cases members with
          | nil => cases present
          | cons member rest => exact ⟨rfl, rfl⟩
        · cases present
    | none =>
      refine .somewhere _ placeholder _ ?_ fixed (grows_step kept) (.inl rfl)
      simp [ensureMembers_missing present, resolve?_cons, child?, lookup_insertMember_self]

-- A position that an index stands for is there in the array as it then is: either it was there before,
-- in which case the array has not grown, or it holds a placeholder.
theorem placeIndex_some {grown : List Value} {position : Nat}
    (placed : placeIndex index items = (grown, some position)) :
    (∃ part, items[position]? = some part ∧ grown = items) ∨
      items[position]? = none ∧ grown[position]? = some placeholder := by
  unfold placeIndex at placed
  dsimp only at placed
  split at placed
  · split at placed
    · cases placed
      have inside : (index.toInt + items.length).toNat < items.length := by omega
      exact .inl ⟨_, List.getElem?_eq_getElem inside, rfl⟩
    · cases placed
  · cases placed
    by_cases inside : index.toInt.toNat < items.length
    · have enough : index.toInt.toNat + 1 - items.length = 0 := by omega
      exact .inl ⟨_, List.getElem?_eq_getElem inside, by rw [enough, List.replicate_zero, List.append_nil]⟩
    · refine .inr ⟨List.getElem?_eq_none (by omega), ?_⟩
      rw [List.getElem?_append_right (by omega), List.getElem?_replicate_of_lt (by omega)]

theorem placeIndex_keeps {grown : List Value} {position : Nat} {found : Option Nat}
    (placed : placeIndex index items = (grown, found)) (present : items[position]? = some part) :
    grown[position]? = some part := by
  unfold placeIndex at placed
  dsimp only at placed
  split at placed <;> cases placed
  · exact present
  · have inside := (List.getElem?_eq_some_iff.mp present).1
    rw [List.getElem?_append_left inside, present]

theorem placeIndex_none {grown : List Value} (placed : placeIndex index items = (grown, none)) :
    index.toInt < 0 := by
  unfold placeIndex at placed
  dsimp only at placed
  split at placed
  · assumption
  · cases placed

theorem placeIndex_trail {grown : List Value} {position : Nat}
    (placed : placeIndex index items = (grown, some position)) :
    ∀ steps ∈ (Path.index index).trail?, [Step.element position] = steps := by
  intro steps here
  unfold Path.trail? at here
  split at here
  · rename_i forward
    cases here
    unfold placeIndex at placed
    dsimp only at placed
    rw [if_neg (by omega)] at placed
    cases placed
    rfl
  · cases here

theorem reached_index :
    Reached (Path.index index).trail? tree (Path.reach labels (.index index) tree) := by
  unfold Path.reach
  cases made : tree.asItems with
  | error error => exact .refused error (asItems_error made)
  | ok items =>
    cases placed : placeIndex index items with
    | mk grown found =>
    have kept : ∀ other part, tree.child? other = some part → (array grown).child? other = some part := by
      intro other part here
      obtain ⟨position, rfl, present⟩ := asItems_child made here
      exact placeIndex_keeps placed present
    dsimp only
    rw [placed]
    cases found with
    | none =>
      have back := placeIndex_none placed
      exact .nowhere _ (if_neg (by omega))
    | some position =>
      rcases placeIndex_some placed with ⟨part, present, rfl⟩ | ⟨missing, present⟩
      · refine .somewhere _ part _ ?_ (placeIndex_trail placed) (grows_step kept) (.inr ?_)
        · simp [resolve?_cons, child?, present]
        · rcases asItems_ok made with rfl | ⟨_, rfl⟩
          · exact ⟨rfl, rfl⟩
          · cases present
      · refine .somewhere _ placeholder _ ?_ (placeIndex_trail placed) (grows_step kept) (.inl rfl)
        simp [resolve?_cons, child?, present]

theorem changeEach_single (change : Value → Attempt α) (leads : tree.resolve? location = some part) :
    ∃ after, tree.write? location (change part).1 = some after ∧
      changeEach change [location] tree = (after, (change part).2.map fun a => [(location, a)]) := by
  obtain ⟨after, written⟩ := write?_isSome (change part).1 leads
  refine ⟨after, written, ?_⟩
  unfold changeEach
  rw [leads]
  dsimp only
  rw [written, Option.getD_some]
  cases (change part).2 with
  | error error => rfl
  | ok a => rfl

-- A part that is no blank was reached without a change, so nothing has changed once it is put back.
theorem putBack_filled {middle : Value} (leads : middle.resolve? location = some part)
    (written : middle.write? location part = some after)
    (fresh : part.isBlank = true ∨ middle = tree ∧ tree.isBlank = false) (filled : part.isBlank = false) :
    after = tree ∧ tree.isBlank = false := by
  rcases fresh with blank | ⟨rfl, treeFilled⟩
  · rw [blank] at filled
    cases filled
  · rw [write?_found leads] at written
    cases written
    exact ⟨rfl, treeFilled⟩

theorem reached_child (first : ∀ tree, Reached left.trail? tree (left.reach labels tree))
    (second : ∀ tree, Reached right.trail? tree (right.reach labels tree)) :
    Reached (Path.child left right).trail? tree (Path.reach labels (.child left right) tree) := by
  unfold Path.reach
  have outer := first tree
  generalize left.reach labels tree = attempt at outer ⊢
  cases outer with
  | refused error filled => exact .refused error filled
  | nowhere after varies => exact .nowhere _ (Path.trail?_child_none (.inl varies))
  | somewhere middle part location leads fixed grows fresh =>
    obtain ⟨after, written, same⟩ := changeEach_single (right.reach labels) leads
    have inside := second part
    dsimp only
    rw [same]
    generalize right.reach labels part = attempt at inside written ⊢
    cases inside with
    | refused error partFilled =>
      obtain ⟨rfl, filled⟩ := putBack_filled leads written fresh partFilled
      exact .refused error filled
    | nowhere grown varies => exact .nowhere after (Path.trail?_child_none (.inr varies))
    | somewhere grown found inner innerLeads innerFixed innerGrows innerFresh =>
      refine .somewhere after found (location ++ inner) ?_ (Path.trail?_child_fixed fixed innerFixed)
        (grows.below leads innerGrows written) ?_
      · rw [resolve?_write?_below written, innerLeads]
      · rcases innerFresh with blank | ⟨rfl, partFilled⟩
        · exact .inl blank
        · exact .inr (putBack_filled leads written fresh partFilled)

theorem reached_straight (straight : path.Straight) (tree : Value) :
    Reached path.trail? tree (path.reach labels tree) := by
  induction straight generalizing tree with
  | root => exact reached_here
  | this => exact reached_here
  | field name => exact reached_field
  | index i => exact reached_index
  | child first second ihFirst ihSecond => exact reached_child ihFirst ihSecond

end TreePath
