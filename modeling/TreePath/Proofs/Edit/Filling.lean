import TreePath.Proofs.Edit.Growth
namespace TreePath

variable {labels : Option String} {path left right : Path} {tree part value : Value} {name : String}
  {index : Int64} {members : List (String × Value)} {location : Location} {locations : List Location}

open Value

-- Writing a value where an attempt to reach has led.
def fill (value : Value) : Attempt (List Location) → Attempt Unit
  | (tree, .error error) => (tree, .error error)
  | (tree, .ok places) => (places.foldl (fun tree place => (tree.write? place value).getD tree) tree, .ok ())

theorem fill_single {after : Value} (written : tree.write? location value = some after) :
    fill value (tree, .ok [location]) = (after, .ok ()) := by
  simp [fill, written]

theorem insertMember_ensureMembers :
    insertMember name value (ensureMembers [name] members) = insertMember name value members := by
  cases present : lookup name members with
  | some part => rw [ensureMembers_found present]
  | none => rw [ensureMembers_missing present, insertMember_insertMember]

theorem create_field : Path.create labels value (.fields [name]) tree =
    fill value (Path.reach labels (.fields [name]) tree) := by
  unfold Path.create Path.reach
  cases tree.asMembers with
  | error error => rfl
  | ok members =>
    have present : ∃ part, lookup name (ensureMembers [name] members) = some part := by
      cases found : lookup name members with
      | some part => exact ⟨part, lookup_ensureMembers found⟩
      | none => exact ⟨placeholder, by rw [ensureMembers_missing found, lookup_insertMember_self]⟩
    obtain ⟨part, present⟩ := present
    refine (fill_single ?_).symm
    simp [write?, child?, setChild?, present, setMembers, insertMember_ensureMembers]

theorem create_index : Path.create labels value (.index index) tree =
    fill value (Path.reach labels (.index index) tree) := by
  unfold Path.create Path.reach
  cases tree.asItems with
  | error error => rfl
  | ok items =>
    cases placed : placeIndex index items with
    | mk grown found =>
    dsimp only
    rw [placed]
    cases found with
    | none => rfl
    | some position =>
      have inside : position < grown.length := by
        rcases placeIndex_some placed with ⟨part, present, rfl⟩ | ⟨_, present⟩
        · exact (List.getElem?_eq_some_iff.mp present).1
        · exact (List.getElem?_eq_some_iff.mp present).1
      refine (fill_single ?_).symm
      simp [write?, child?, setChild?, inside]

theorem create_child (first : ∀ tree, Reached left.trail? tree (left.reach labels tree))
    (second : ∀ tree, Reached right.trail? tree (right.reach labels tree))
    (filled : ∀ tree, right.create labels value tree = fill value (right.reach labels tree)) :
    Path.create labels value (.child left right) tree =
      fill value (Path.reach labels (.child left right) tree) := by
  rw [Path.create, Path.reach]
  have outer := first tree
  generalize left.reach labels tree = attempt at outer ⊢
  cases outer with
  | refused error => rfl
  | nowhere => rfl
  | somewhere middle part location leads =>
    obtain ⟨after, written, same⟩ := changeEach_single (right.create labels value) leads
    obtain ⟨between, reached, sameReach⟩ := changeEach_single (right.reach labels) leads
    have inside := second part
    rw [filled part] at written same
    dsimp only
    rw [same, sameReach]
    generalize right.reach labels part = attempt at inside written reached ⊢
    cases inside with
    | refused error =>
      cases written.symm.trans reached
      rfl
    | nowhere grown =>
      cases written.symm.trans reached
      rfl
    | somewhere grown found inner innerLeads =>
      obtain ⟨changed, innerWritten⟩ := write?_isSome value innerLeads
      rw [fill_single innerWritten] at written ⊢
      refine (fill_single ?_).symm
      rw [write?_write?_below reached innerWritten, written]

-- To create is to reach, and then to write there.
theorem create_eq_fill (straight : path.Straight) (tree : Value) :
    path.create labels value tree = fill value (path.reach labels tree) := by
  induction straight generalizing tree with
  | root => rfl
  | this => rfl
  | field name => exact create_field
  | index i => exact create_index
  | child first second ihFirst ihSecond =>
    exact create_child (reached_straight first) (reached_straight second) ihSecond

end TreePath
