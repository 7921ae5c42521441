import TreePath.Edit.Update
namespace TreePath

inductive CreateError where
  | noObject (kind : String)
  | noArray (kind : String)
deriving DecidableEq

def CreateError.message : CreateError → String
  | noObject kind => "Type error: Cannot create a field on " ++ kind
  | noArray kind => "Type error: Cannot create an index on " ++ kind

abbrev Attempt (α : Type) := Value × Except CreateError α

def Value.asMembers : Value → Except CreateError (List (String × Value))
  | .null => .ok []
  | .object members => .ok members
  | other => .error (.noObject other.kind)

def Value.asItems : Value → Except CreateError (List Value)
  | .null => .ok []
  | .object [] => .ok []
  | .array items => .ok items
  | other => .error (.noArray other.kind)

def Value.placeholder : Value := .object []

-- An array grows as far as the index asks for, but not for a negative index.
def placeIndex (index : Int64) (items : List Value) : List Value × Option Nat :=
  let i := index.toInt
  if i < 0 then
    (items, if 0 ≤ i + items.length then some (i + items.length).toNat else none)
  else
    (items ++ List.replicate (i.toNat + 1 - items.length) Value.placeholder, some i.toNat)

def ensureMembers : List String → List (String × Value) → List (String × Value)
  | [], members => members
  | name :: rest, members =>
    ensureMembers rest
      (match Value.lookup name members with
        | some _ => members
        | none => Value.insertMember name Value.placeholder members)

def setMembers (value : Value) : List String → List (String × Value) → List (String × Value)
  | [], members => members
  | name :: rest, members => setMembers value rest (Value.insertMember name value members)

-- The first refusal ends it, and what was changed by then stays changed; parts that are not there any more are passed
-- over.
def changeEach {α : Type} (change : Value → Attempt α) :
    List Location → Value → Attempt (List (Location × α))
  | [], tree => (tree, .ok [])
  | location :: rest, tree =>
    match tree.resolve? location with
    | none => changeEach change rest tree
    | some part =>
      let (changed, result) := change part
      let tree := (tree.write? location changed).getD tree
      match result with
      | .error e => (tree, .error e)
      | .ok a =>
        match changeEach change rest tree with
        | (tree, .ok others) => (tree, .ok ((location, a) :: others))
        | (tree, .error e) => (tree, .error e)

def Path.reach (labels : Option String) : Path → Value → Attempt (List Location)
  | .root, tree => (tree, .ok [[]])
  | .this, tree => (tree, .ok [[]])
  | .fields names, tree =>
    match tree.asMembers with
    | .error e => (tree, .error e)
    | .ok members =>
      (.object (ensureMembers names members), .ok (names.map (fun name => [Step.member name])))
  | .index i, tree =>
    match tree.asItems with
    | .error e => (tree, .error e)
    | .ok items =>
      let (items, position) := placeIndex i items
      (.array items, .ok (position.map (fun n => [Step.element n])).toList)
  | .child left right, tree =>
    match left.reach labels tree with
    | (tree, .error e) => (tree, .error e)
    | (tree, .ok starts) =>
      let (tree, result) := changeEach (right.reach labels) starts tree
      (tree, result.map (fun found => found.flatMap fun (start, ends) => ends.map (start ++ ·)))
  | other, tree => (tree, .ok ((other.find labels tree).filterMap Match.location?))

-- Slices are left alone; what is neither a name nor an index only replaces what it finds.
def Path.create (labels : Option String) (value : Value) : Path → Value → Attempt Unit
  | .root, _ => (value, .ok ())
  | .this, _ => (value, .ok ())
  | .fields names, tree =>
    match tree.asMembers with
    | .error e => (tree, .error e)
    | .ok members => (.object (setMembers value names members), .ok ())
  | .index i, tree =>
    match tree.asItems with
    | .error e => (tree, .error e)
    | .ok items =>
      match placeIndex i items with
      | (items, some n) => (.array (items.set n value), .ok ())
      | (items, none) => (.array items, .ok ())
  | .child left right, tree =>
    match left.reach labels tree with
    | (tree, .error e) => (tree, .error e)
    | (tree, .ok starts) =>
      let (tree, result) := changeEach (right.create labels value) starts tree
      (tree, result.map (fun _ => ()))
  | .slice _ _ _, tree => (tree, .ok ())
  | other, tree => (other.update labels tree value, .ok ())

end TreePath
