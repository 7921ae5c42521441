namespace TreePath.Sorting

-- Sorted elements are held last first, and a new one goes as far forward as it is less than the one before it.
def insertFromEnd {α : Type} (order : α → α → Ordering) (x : α) : List α → List α
  | [] => [x]
  | y :: before => if order x y = .lt then y :: insertFromEnd order x before else x :: y :: before

def insertAll {α : Type} (order : α → α → Ordering) (sorted elements : List α) : List α :=
  (elements.foldl (fun sorted x => insertFromEnd order x sorted) sorted.reverse).reverse

def sort {α : Type} (order : α → α → Ordering) (elements : List α) : List α :=
  insertAll order [] elements

end TreePath.Sorting
