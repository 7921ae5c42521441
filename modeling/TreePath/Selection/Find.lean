import TreePath.Match.Basic
import TreePath.Selection.Arithmetic
import TreePath.Selection.Named
namespace TreePath

mutual
def Value.size : Value → Nat
  | .array items => 1 + itemsSize items
  | .object members => 1 + membersSize members
  | _ => 1

def itemsSize : List Value → Nat
  | [] => 0
  | item :: rest => item.size + itemsSize rest

def membersSize : List (String × Value) → Nat
  | [] => 0
  | (_, value) :: rest => value.size + membersSize rest
end

namespace Match

def elementsFrom (m : Match) : Nat → List Value → List Match
  | _, [] => []
  | n, item :: rest => m.select (.index (Int64.ofNat n)) item :: elementsFrom m (n + 1) rest

def ofMembers (m : Match) : List (String × Value) → List Match
  | [] => []
  | (name, value) :: rest => m.select (.field name) value :: ofMembers m rest

def parts (m : Match) : List Match :=
  match m.value with
  | .array items => m.elementsFrom 0 items
  | .object members => m.ofMembers members
  | _ => []

-- The label field gives a label made up from the chain of the match, in place of the member.
def member? (labels : Option String) (m : Match) (name : String) : Option Match :=
  if labels = some name then some (m.label name)
  else (m.value.get? name).map (m.select (.field name))

def names (labels : Option String) (m : Match) : List String :=
  match m.value with
  | .object members =>
    let keys := members.map Prod.fst
    match labels with
    | some field => if keys.contains field then keys else keys ++ [field]
    | none => keys
  | _ => []

-- What is no array is the one element of an array; null is none.
def element (index : Int64) (m : Match) : List Match :=
  match m.value with
  | .null => []
  | .array items =>
    ((Slice.position? index items.length).bind fun n =>
      items[n]?.map (m.select (.index (Int64.ofNat n)))).toList
  | other => if index.toInt = 0 ∨ index.toInt = -1 then [m.select (.index 0) other] else []

def elements (start stop step : Option Int64) (m : Match) : List Match :=
  let ofItems (items : List Value) : List Match :=
    (Slice.positions items.length start stop step).filterMap fun n =>
      items[n]?.map (m.select (.index (Int64.ofNat n)))
  match m.value with
  | .null => []
  | .array items => ofItems items
  | other => ofItems [other]

def top (m : Match) : Match := ⟨⟨m.first.value, .root, false⟩, []⟩

def pendingSize : List Match → Nat
  | [] => 0
  | m :: rest => m.value.size + pendingSize rest

theorem pendingSize_append (a b : List Match) :
    pendingSize (a ++ b) = pendingSize a + pendingSize b := by
  induction a with
  | nil => simp [pendingSize]
  | cons m rest ih => simp [pendingSize, ih]; omega

theorem pendingSize_elementsFrom (m : Match) (n : Nat) (items : List Value) :
    pendingSize (m.elementsFrom n items) = itemsSize items := by
  induction items generalizing n with
  | nil => rfl
  | cons item rest ih => simp [elementsFrom, pendingSize, itemsSize, ih, select, value]

theorem pendingSize_ofMembers (m : Match) (members : List (String × Value)) :
    pendingSize (m.ofMembers members) = membersSize members := by
  induction members with
  | nil => rfl
  | cons member rest ih => simp [ofMembers, pendingSize, membersSize, ih, select, value]

theorem pendingSize_parts (m : Match) : pendingSize m.parts + 1 = m.value.size := by
  unfold parts
  cases m.value with
  | array items => simp [pendingSize_elementsFrom, Value.size]; omega
  | object members => simp [pendingSize_ofMembers, Value.size]; omega
  | _ => simp [pendingSize, Value.size]

-- The parts of a match are put before the matches that were pending already.
def visitPending (found : Match → List Match) : List Match → List (List Match) → List Match
  | [], results => results.reverse.flatten
  | m :: pending, results => visitPending found (m.parts ++ pending) (found m :: results)
termination_by pending => pendingSize pending
decreasing_by
  have parts := pendingSize_parts m
  simp only [pendingSize, pendingSize_append]
  omega

end Match

mutual
def Path.matchesFrom (labels : Option String) : Path → Match → List Match
  | .root, m => [m.top]
  | .this, m => [m]
  | .parent, m => m.context?.toList
  | .wildcard, m => (m.names labels).filterMap (m.member? labels)
  | .fields names, m => names.filterMap (m.member? labels)
  | .index i, m => m.element i
  | .slice start stop step, m => m.elements start stop step
  | .child left right, m =>
    ((left.matchesFrom labels m).filter (fun found => !found.isLabel)).flatMap
      (right.matchesFrom labels)
  | .descendants left right, m =>
    Match.visitPending (right.matchesFrom labels) (left.matchesFrom labels m) []
  | .whereSome left right, m =>
    (left.matchesFrom labels m).filter (fun found => !(right.matchesFrom labels found).isEmpty)
  | .whereNone left right, m =>
    (left.matchesFrom labels m).filter (fun found => (right.matchesFrom labels found).isEmpty)
  | .union alternatives, m => matchesOfAll labels alternatives m
  | .filter conditions, m =>
    if conditions.isEmpty then [m]
    else m.parts.filter (allHold labels conditions)
  | .sort keys, m =>
    match keys, m.value with
    | [], value =>
      match Sorting.sorted? value with
      | some sorted => [m.select (.sort keys) sorted]
      | none => [m]
    | keys, .array items =>
      let directions := keys.map (fun | .mk direction _ => direction)
      [m.select (.sort keys)
        (.array (Sorting.sortByKeys directions (keyValues labels keys) items))]
    | _, _ => [m]
  | .arithmetic operator left right, m =>
    (Arithmetic.combine operator (left.side labels m) (right.side labels m)).map
      (m.select (.arithmetic operator left right))
  | .named .sorted, m =>
    match Sorting.sorted? m.value with
    | some sorted => [m.select (.named .sorted) sorted]
    | none => [m]
  | .named operator, m => (operator.values m.value).map (m.select (.named operator))

def matchesOfAll (labels : Option String) : List Path → Match → List Match
  | [], _ => []
  | path :: rest, m => path.matchesFrom labels m ++ matchesOfAll labels rest m

def allHold (labels : Option String) : List Condition → Match → Bool
  | [], _ => true
  | condition :: rest, m => condition.holds labels m && allHold labels rest m

-- A comparison holds if it holds of some value found.
def Condition.holds (labels : Option String) : Condition → Match → Bool
  | .present target, m => !(target.matchesFrom labels m).isEmpty
  | .compare target operator literal, m =>
    (target.matchesFrom labels m).any (fun found => literal.accepts operator found.value)

def keyValues (labels : Option String) : List SortKey → Value → List Sorting.KeyValue
  | [], _ => []
  | key :: rest, element => key.value? labels element :: keyValues labels rest element

def SortKey.value? (labels : Option String) : SortKey → Value → Sorting.KeyValue
  | .mk _ path, element => (path.matchesFrom labels (Match.start element)).head?.map Match.value

def Operand.side (labels : Option String) : Operand → Match → Arithmetic.Side
  | .literal value, _ => .literal value
  | .path path, m => .found ((path.matchesFrom labels m).map Match.value)
end

def Path.find (labels : Option String) (path : Path) (tree : Value) : List Match :=
  path.matchesFrom labels (Match.start tree)

end TreePath
