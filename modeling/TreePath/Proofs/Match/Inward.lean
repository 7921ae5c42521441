import Mathlib.Data.List.Forall2
import TreePath.Selection.Find
namespace TreePath

mutual
-- Paths that stay at or below the value they start from.
def Path.isInward : Path → Bool
  | .root => false
  | .parent => false
  | .child left right => left.isInward && right.isInward
  | .descendants left right => left.isInward && right.isInward
  | .whereSome left right => left.isInward && right.isInward
  | .whereNone left right => left.isInward && right.isInward
  | .union alternatives => allInward alternatives
  | .filter conditions => conditionsInward conditions
  | .arithmetic _ left right => left.isInward && right.isInward
  | _ => true

def allInward : List Path → Bool
  | [] => true
  | path :: rest => path.isInward && allInward rest

def conditionsInward : List Condition → Bool
  | [] => true
  | condition :: rest => condition.isInward && conditionsInward rest

def Condition.isInward : Condition → Bool
  | .present target => target.isInward
  | .compare target _ _ => target.isInward

def Operand.isInward : Operand → Bool
  | .literal _ => true
  | .path path => path.isInward
end

namespace Match

-- Matches with the same value, whatever their chains.
structure Alike (a b : Match) : Prop where
  value : a.value = b.value
  isLabel : a.isLabel = b.isLabel

variable {m m' : Match} {found found' pending pending' : List Match} {results results' : List (List Match)}
  {value : Value} {segment : Path} {position : Nat} {name : String} {collect : Match → List Match}

theorem alike_select : Alike (m.select segment value) (m'.select segment value) :=
  ⟨rfl, rfl⟩

theorem alike_elementsFrom (items : List Value) :
    List.Forall₂ Alike (m.elementsFrom position items) (m'.elementsFrom position items) := by
  induction items generalizing position with
  | nil => exact .nil
  | cons item rest ih => exact .cons alike_select ih

theorem alike_ofMembers (members : List (String × Value)) :
    List.Forall₂ Alike (m.ofMembers members) (m'.ofMembers members) := by
  induction members with
  | nil => exact .nil
  | cons member rest ih => exact .cons alike_select ih

theorem alike_parts (alike : Alike m m') : List.Forall₂ Alike m.parts m'.parts := by
  unfold parts
  rw [alike.value]
  split
  · exact alike_elementsFrom _
  · exact alike_ofMembers _
  · exact .nil

theorem alike_filterMap {α : Type} (elements : List α) {select select' : α → Option Match}
    (each : ∀ a, Option.Rel Alike (select a) (select' a)) :
    List.Forall₂ Alike (elements.filterMap select) (elements.filterMap select') :=
  List.rel_filterMap (R := Eq) (fun a _ same => same ▸ each a) (List.forall₂_same.mpr fun _ _ => rfl)

theorem alike_map (values : Option Value) :
    Option.Rel Alike (values.map (m.select segment)) (values.map (m'.select segment)) := by
  cases values with
  | none => exact .none
  | some value => exact .some alike_select

theorem alike_computed (values : List Value) :
    List.Forall₂ Alike (values.map (m.select segment)) (values.map (m'.select segment)) := by
  induction values with
  | nil => exact .nil
  | cons value rest ih => exact .cons alike_select ih

theorem alike_member? (alike : Alike m m') : Option.Rel Alike (m.member? none name) (m'.member? none name) := by
  unfold member?
  rw [if_neg nofun, if_neg nofun, alike.value]
  exact alike_map _

theorem alike_element {index : Int64} (alike : Alike m m') :
    List.Forall₂ Alike (m.element index) (m'.element index) := by
  unfold element
  rw [alike.value]
  split
  · exact .nil
  · rename_i items _
    cases Slice.position? index items.length with
    | none => exact .nil
    | some position =>
      cases present : items[position]? with
      | none => simp [present]
      | some part => simp [present, alike_select]
  · split
    · exact .cons alike_select .nil
    · exact .nil

theorem alike_elements {start stop step : Option Int64} (alike : Alike m m') :
    List.Forall₂ Alike (m.elements start stop step) (m'.elements start stop step) := by
  unfold elements
  dsimp only
  rw [alike.value]
  split
  · exact .nil
  · exact alike_filterMap _ fun _ => alike_map _
  · exact alike_filterMap _ fun _ => alike_map _

theorem alike_filter {keep : Match → Bool} (kept : ∀ {a b}, Alike a b → keep a = keep b)
    (alike : List.Forall₂ Alike found found') : List.Forall₂ Alike (found.filter keep) (found'.filter keep) :=
  List.rel_filter (fun _ _ same => iff_of_eq (congrArg (· = true) (kept same))) alike

theorem alike_visitPending (collected : ∀ {a b}, Alike a b → List.Forall₂ Alike (collect a) (collect b))
    (waiting : List.Forall₂ Alike pending pending')
    (done : List.Forall₂ Alike results.reverse.flatten results'.reverse.flatten) :
    List.Forall₂ Alike (visitPending collect pending results) (visitPending collect pending' results') := by
  induction pending, results using visitPending.induct collect generalizing pending' results' with
  | case1 results =>
    cases waiting
    rwa [visitPending, visitPending]
  | case2 p pending results ih =>
    cases waiting with
    | cons here later =>
      rw [visitPending, visitPending]
      refine ih (List.rel_append (alike_parts here) later) ?_
      simpa using List.rel_append done (collected here)

theorem alike_isEmpty (alike : List.Forall₂ Alike found found') : found.isEmpty = found'.isEmpty := by
  cases alike <;> rfl

theorem alike_values (alike : List.Forall₂ Alike found found') : found.map Match.value = found'.map Match.value := by
  induction alike with
  | nil => rfl
  | cons here _ ih => rw [List.map_cons, List.map_cons, here.value, ih]

theorem alike_any (holds : Value → Bool) (alike : List.Forall₂ Alike found found') :
    (found.any fun m => holds m.value) = found'.any fun m => holds m.value := by
  induction alike with
  | nil => rfl
  | cons here _ ih => rw [List.any_cons, List.any_cons, here.value, ih]

mutual
-- What an inward path finds from a match does not depend on the chain of the match. The recursion is that
-- of the search.
theorem alike_matchesFrom (path : Path) (inward : path.isInward = true) {m m' : Match} (alike : Alike m m') :
    List.Forall₂ Alike (path.matchesFrom none m) (path.matchesFrom none m') := by
  cases path with
  | root => cases inward
  | parent => cases inward
  | this => exact .cons alike .nil
  | wildcard =>
    rw [Path.matchesFrom, Path.matchesFrom]
    have names : m.names none = m'.names none := by rw [names, names, alike.value]
    rw [names]
    exact alike_filterMap _ fun _ => alike_member? alike
  | fields names =>
    rw [Path.matchesFrom, Path.matchesFrom]
    exact alike_filterMap _ fun _ => alike_member? alike
  | index i =>
    rw [Path.matchesFrom, Path.matchesFrom]
    exact alike_element alike
  | slice start stop step =>
    rw [Path.matchesFrom, Path.matchesFrom]
    exact alike_elements alike
  | child left right =>
    obtain ⟨first, second⟩ := Bool.and_eq_true_iff.mp inward
    rw [Path.matchesFrom, Path.matchesFrom]
    exact List.rel_flatMap (alike_filter (fun same => by rw [same.isLabel]) (alike_matchesFrom left first alike))
      fun _ _ same => alike_matchesFrom right second same
  | descendants left right =>
    obtain ⟨first, second⟩ := Bool.and_eq_true_iff.mp inward
    rw [Path.matchesFrom, Path.matchesFrom]
    exact alike_visitPending (alike_matchesFrom right second) (alike_matchesFrom left first alike) .nil
  | whereSome left right =>
    obtain ⟨first, second⟩ := Bool.and_eq_true_iff.mp inward
    rw [Path.matchesFrom, Path.matchesFrom]
    exact alike_filter (fun same => by rw [alike_isEmpty (alike_matchesFrom right second same)])
      (alike_matchesFrom left first alike)
  | whereNone left right =>
    obtain ⟨first, second⟩ := Bool.and_eq_true_iff.mp inward
    rw [Path.matchesFrom, Path.matchesFrom]
    exact alike_filter (fun same => alike_isEmpty (alike_matchesFrom right second same))
      (alike_matchesFrom left first alike)
  | union alternatives =>
    rw [Path.matchesFrom, Path.matchesFrom]
    exact alike_matchesOfAll alternatives inward alike
  | filter conditions =>
    rw [Path.matchesFrom, Path.matchesFrom]
    split
    · exact .cons alike .nil
    · exact alike_filter (fun same => allHold_alike conditions inward same) (alike_parts alike)
  | sort keys =>
    rw [Path.matchesFrom.eq_def, Path.matchesFrom.eq_def]
    dsimp only
    rw [alike.value]
    split
    · split
      · exact .cons alike_select .nil
      · exact .cons alike .nil
    · exact .cons alike_select .nil
    · exact .cons alike .nil
  | arithmetic operator left right =>
    obtain ⟨first, second⟩ := Bool.and_eq_true_iff.mp inward
    rw [Path.matchesFrom, Path.matchesFrom, side_alike left first alike, side_alike right second alike]
    exact alike_computed _
  | named operator =>
    cases operator with
    | sorted =>
      rw [Path.matchesFrom, Path.matchesFrom, alike.value]
      split
      · exact .cons alike_select .nil
      · exact .cons alike .nil
    | len | keys | str | sub | split =>
      rw [Path.matchesFrom, Path.matchesFrom, alike.value]
      · exact alike_computed _
      · simp
      · simp

theorem alike_matchesOfAll (alternatives : List Path) (inward : allInward alternatives = true)
    {m m' : Match} (alike : Alike m m') :
    List.Forall₂ Alike (matchesOfAll none alternatives m) (matchesOfAll none alternatives m') := by
  cases alternatives with
  | nil => exact .nil
  | cons path rest =>
    obtain ⟨here, later⟩ := Bool.and_eq_true_iff.mp inward
    rw [matchesOfAll, matchesOfAll]
    exact List.rel_append (alike_matchesFrom path here alike) (alike_matchesOfAll rest later alike)

theorem allHold_alike (conditions : List Condition) (inward : conditionsInward conditions = true)
    {m m' : Match} (alike : Alike m m') : allHold none conditions m = allHold none conditions m' := by
  cases conditions with
  | nil => rfl
  | cons condition rest =>
    obtain ⟨here, later⟩ := Bool.and_eq_true_iff.mp inward
    rw [allHold, allHold, holds_alike condition here alike, allHold_alike rest later alike]

theorem holds_alike (condition : Condition) (inward : condition.isInward = true) {m m' : Match} (alike : Alike m m') :
    condition.holds none m = condition.holds none m' := by
  cases condition with
  | present target =>
    rw [Condition.holds, Condition.holds, alike_isEmpty (alike_matchesFrom target inward alike)]
  | compare target operator literal =>
    rw [Condition.holds, Condition.holds]
    exact alike_any (literal.accepts operator) (alike_matchesFrom target inward alike)

theorem side_alike (operand : Operand) (inward : operand.isInward = true) {m m' : Match} (alike : Alike m m') :
    operand.side none m = operand.side none m' := by
  cases operand with
  | literal value => rfl
  | path path => rw [Operand.side, Operand.side, alike_values (alike_matchesFrom path inward alike)]
end

end Match
end TreePath
