import Mathlib.Data.List.Basic
import TreePath.Selection.Find
namespace TreePath

mutual
-- Paths that select nothing by a wildcard and nothing by this name; their conditions, sort keys and operands do
-- neither.
def Path.avoids (field : String) : Path → Bool
  | .wildcard => false
  | .fields names => !names.contains field
  | .child left right => left.avoids field && right.avoids field
  | .descendants left right => left.avoids field && right.avoids field
  | .whereSome left right => left.avoids field && right.avoids field
  | .whereNone left right => left.avoids field && right.avoids field
  | .union alternatives => allAvoid field alternatives
  | .filter conditions => conditionsAvoid field conditions
  | .sort keys => keysAvoid field keys
  | .arithmetic _ left right => left.avoids field && right.avoids field
  | _ => true

def allAvoid (field : String) : List Path → Bool
  | [] => true
  | path :: rest => path.avoids field && allAvoid field rest

def conditionsAvoid (field : String) : List Condition → Bool
  | [] => true
  | condition :: rest => condition.avoids field && conditionsAvoid field rest

def keysAvoid (field : String) : List SortKey → Bool
  | [] => true
  | key :: rest => key.avoids field && keysAvoid field rest

def Condition.avoids (field : String) : Condition → Bool
  | .present target => target.avoids field
  | .compare target _ _ => target.avoids field

def SortKey.avoids (field : String) : SortKey → Bool
  | .mk _ path => path.avoids field

def Operand.avoids (field : String) : Operand → Bool
  | .literal _ => true
  | .path path => path.avoids field
end

variable {field name : String} {names : List String} {m : Match}

namespace Match

theorem member?_avoiding (apart : name ≠ field) : m.member? (some field) name = m.member? none name := by
  have other : some field ≠ some name := fun same => apart (Option.some.inj same).symm
  unfold member?
  rw [if_neg other, if_neg nofun]

theorem members_avoiding (avoids : names.contains field = false) :
    names.filterMap (m.member? (some field)) = names.filterMap (m.member? none) := by
  refine List.filterMap_congr fun name listed => member?_avoiding ?_
  rintro rfl
  rw [List.contains_iff_mem.mpr listed] at avoids
  cases avoids

mutual
-- A label is made where a name or a wildcard stands for the label field, and nowhere else. Without one there is
-- none to be left out by `.`, to hold or fail a condition, or to be a value that elements are sorted by. The
-- recursion is that of the search.
theorem matchesFrom_avoiding (path : Path) (avoids : path.avoids field = true) (m : Match) :
    path.matchesFrom (some field) m = path.matchesFrom none m := by
  cases path with
  | root | this | parent | index | slice => rfl
  | wildcard => cases avoids
  | fields names =>
    have unlisted : names.contains field = false := by simpa [Path.avoids] using avoids
    rw [Path.matchesFrom, Path.matchesFrom, members_avoiding unlisted]
  | child left right | descendants left right | whereSome left right | whereNone left right =>
    obtain ⟨first, second⟩ := Bool.and_eq_true_iff.mp avoids
    rw [Path.matchesFrom, Path.matchesFrom, matchesFrom_avoiding left first, funext (matchesFrom_avoiding right second)]
  | union alternatives =>
    rw [Path.matchesFrom, Path.matchesFrom]
    exact matchesOfAll_avoiding alternatives avoids m
  | filter conditions =>
    rw [Path.matchesFrom, Path.matchesFrom, funext (allHold_avoiding conditions avoids)]
  | sort keys =>
    have same := funext (keyValues_avoiding keys avoids)
    rw [Path.matchesFrom.eq_def, Path.matchesFrom.eq_def]
    dsimp only
    split
    · rfl
    · rw [same]
    · rfl
  | arithmetic operator left right =>
    obtain ⟨first, second⟩ := Bool.and_eq_true_iff.mp avoids
    rw [Path.matchesFrom, Path.matchesFrom, side_avoiding left first, side_avoiding right second]
  | named operator => cases operator <;> rfl

theorem matchesOfAll_avoiding (alternatives : List Path) (avoids : allAvoid field alternatives = true) (m : Match) :
    matchesOfAll (some field) alternatives m = matchesOfAll none alternatives m := by
  cases alternatives with
  | nil => rfl
  | cons path rest =>
    obtain ⟨here, later⟩ := Bool.and_eq_true_iff.mp avoids
    rw [matchesOfAll, matchesOfAll, matchesFrom_avoiding path here, matchesOfAll_avoiding rest later]

theorem allHold_avoiding (conditions : List Condition) (avoids : conditionsAvoid field conditions = true) (m : Match) :
    allHold (some field) conditions m = allHold none conditions m := by
  cases conditions with
  | nil => rfl
  | cons condition rest =>
    obtain ⟨here, later⟩ := Bool.and_eq_true_iff.mp avoids
    rw [allHold, allHold, holds_avoiding condition here, allHold_avoiding rest later]

theorem holds_avoiding (condition : Condition) (avoids : condition.avoids field = true) (m : Match) :
    condition.holds (some field) m = condition.holds none m := by
  cases condition with
  | present target => rw [Condition.holds, Condition.holds, matchesFrom_avoiding target avoids]
  | compare target operator literal =>
    rw [Condition.holds, Condition.holds, matchesFrom_avoiding target avoids]

theorem keyValues_avoiding (keys : List SortKey) (avoids : keysAvoid field keys = true) (element : Value) :
    keyValues (some field) keys element = keyValues none keys element := by
  cases keys with
  | nil => rfl
  | cons key rest =>
    obtain ⟨here, later⟩ := Bool.and_eq_true_iff.mp avoids
    rw [keyValues, keyValues, value?_avoiding key here, keyValues_avoiding rest later]

theorem value?_avoiding (key : SortKey) (avoids : key.avoids field = true) (element : Value) :
    key.value? (some field) element = key.value? none element := by
  cases key with
  | mk direction path => rw [SortKey.value?, SortKey.value?, matchesFrom_avoiding path avoids]

theorem side_avoiding (operand : Operand) (avoids : operand.avoids field = true) (m : Match) :
    operand.side (some field) m = operand.side none m := by
  cases operand with
  | literal value => rfl
  | path path => rw [Operand.side, Operand.side, matchesFrom_avoiding path avoids]
end

end Match

-- For a path that avoids the label field the setting of the field is inert: the matches are the same, link by
-- link.
theorem Path.find_avoiding (field : String) (path : Path) (avoids : path.avoids field = true) (tree : Value) :
    path.find (some field) tree = path.find none tree :=
  Match.matchesFrom_avoiding path avoids (Match.start tree)

-- A condition, a sort key and an operand, in a tree whose objects have the label field.
theorem Path.find_avoiding_ranked :
    let item (id : String) (rank : Int64) := Value.object [("id", .string id), ("rank", .integer rank)]
    let tree := Value.object [("items", .array [item "x" 2, item "y" 1])]
    let rank := Path.field "rank"
    let sorted := Path.child (.whereSome (.field "items") (.child .fullSlice rank)) (.sort [.mk .ascending rank])
    let large := Path.child (.field "items") (.filter [.compare rank .greater (.integer 1)])
    let path := Path.union [sorted, .arithmetic .add (.path (.child large rank)) (.literal (.integer 1))]
    path.avoids "id" = true ∧ path.find (some "id") tree = path.find none tree ∧
      (path.find (some "id") tree).map Match.value = [.array [item "y" 1, item "x" 2], .integer 3] := by
  intro item tree rank sorted large path
  have avoids : path.avoids "id" = true := by decide
  exact ⟨avoids, Path.find_avoiding "id" path avoids tree, by rfl⟩

end TreePath
