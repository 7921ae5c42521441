import TreePath.Sorting.Insertion
namespace TreePath.Sorting

def isLess {α : Type} (order : α → α → Ordering) (x y : α) : Bool := decide (order x y = .lt)

def takeMerged {α : Type} (goesFirst : α → α → Bool) :
    Nat → List α → List α → List α × List α × List α
  | count + 1, x :: xs, y :: ys =>
    if goesFirst y x then
      let (taken, rest) := takeMerged goesFirst count (x :: xs) ys
      (y :: taken, rest)
    else
      let (taken, rest) := takeMerged goesFirst count xs (y :: ys)
      (x :: taken, rest)
  | _, xs, ys => ([], xs, ys)

def takeLeast {α : Type} (order : α → α → Ordering) (count : Nat) (xs ys : List α) :
    List α × List α × List α :=
  takeMerged (isLess order) count xs ys

-- The same from the ends. What is taken has its last element first.
def takeGreatest {α : Type} (order : α → α → Ordering) (count : Nat) (xs ys : List α) :
    List α × List α × List α :=
  let (taken, ys, xs) := takeMerged (fun x y => isLess order y x) count ys.reverse xs.reverse
  (taken, xs.reverse, ys.reverse)

def merge {α : Type} (order : α → α → Ordering) (xs ys : List α) : List α :=
  let count := xs.length + ys.length
  if xs.length ≤ ys.length then
    let (taken, xs, ys) := takeLeast order count xs ys
    taken ++ xs ++ ys
  else
    let (taken, xs, ys) := takeGreatest order count xs ys
    xs ++ ys ++ taken.reverse

-- Merges from both ends, each of which takes as many elements as the first list has; the second list is as long or
-- has one element more, and what neither end has taken stands between them. Ends that do not meet have been told
-- contradictory things about the elements. There is no result then: the sort of the standard library panics.
def mergeFromEnds {α : Type} (order : α → α → Ordering) (xs ys : List α) : Option (List α) :=
  let half := xs.length
  let (least, xsAfter, ysAfter) := takeLeast order half xs ys
  let (greatest, xsBefore, _) := takeGreatest order half xs ys
  let spare := ys.length - half
  if xsAfter.length + xsBefore.length = half then some (least ++ ysAfter.take spare ++ greatest.reverse)
  else if xsAfter.length + xsBefore.length = half + spare then
    some (least ++ xsAfter.take spare ++ greatest.reverse)
  else none

end TreePath.Sorting
