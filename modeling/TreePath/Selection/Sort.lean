import TreePath.Selection.Compare
import TreePath.Sorting.Runs
namespace TreePath.Sorting

def insertionLimit : Nat := 20

-- The stable sort of the standard library: the elements in order, or none if it panics.
def sort? {α : Type} (order : α → α → Ordering) (elements : List α) : Option (List α) :=
  if elements.length ≤ insertionLimit then some (sort order elements) else sortLong order elements

-- A search has no outcome for a panic, and leaves the elements as they are.
def arrange {α : Type} (order : α → α → Ordering) (elements : List α) : List α :=
  (sort? order elements).getD elements

-- What a sort key finds in an element, if anything.
abbrev KeyValue := Option Value

-- The first key under which two elements differ decides. One that finds nothing in either of them does not tell
-- them apart.
def orderByKeys : List Direction → List KeyValue → List KeyValue → Ordering
  | direction :: directions, a :: as, b :: bs =>
    let order :=
      match direction, a, b with
      | .ascending, some x, some y => Value.order x y
      | .descending, some x, some y => Value.order y x
      | _, _, _ => .eq
    if order = .eq then orderByKeys directions as bs else order
  | _, _, _ => .eq

def sortByKeys (directions : List Direction) (keysOf : Value → List KeyValue)
    (elements : List Value) : List Value :=
  let keyed := elements.map fun element => (keysOf element, element)
  (arrange (fun a b => orderByKeys directions a.1 b.1) keyed).map Prod.snd

-- The elements of an array in order, or the names of an object.
def sorted? : Value → Option Value
  | .array items => some (.array (arrange Value.order items))
  | .object members =>
    some (.array ((sort compareText (members.map Prod.fst)).map Value.string))
  | _ => none

end TreePath.Sorting
