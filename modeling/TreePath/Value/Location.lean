import TreePath.Value.Basic
namespace TreePath

inductive Step where
  | member (name : String)
  | element (position : Nat)
deriving DecidableEq

abbrev Location := List Step

namespace Value

def child? : Value → Step → Option Value
  | object members, .member name => lookup name members
  | array items, .element position => items[position]?
  | _, _ => none

def resolve? (tree : Value) : Location → Option Value
  | [] => some tree
  | step :: rest => (tree.child? step).bind (fun part => resolve? part rest)

def setChild? (tree : Value) (step : Step) (part : Value) : Option Value :=
  match tree, step with
  | object members, .member name =>
    (lookup name members).map (fun _ => object (insertMember name part members))
  | array items, .element position =>
    if position < items.length then some (array (items.set position part)) else none
  | _, _ => none

def write? (tree : Value) (location : Location) (part : Value) : Option Value :=
  match location with
  | [] => some part
  | step :: rest =>
    (tree.child? step).bind fun below =>
      (write? below rest part).bind fun changed => tree.setChild? step changed

end Value
end TreePath
