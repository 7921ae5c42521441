import TreePath.Sorting.Merge
namespace TreePath.Sorting

def mergePairs {α : Type} (order : α → α → Ordering) (a b c d : α) : List α :=
  let isLeastRight := isLess order c a
  let isGreatestLeft := isLess order d b
  let least := if isLeastRight then c else a
  let greatest := if isGreatestLeft then b else d
  let x := if isLeastRight then a else if isGreatestLeft then c else b
  let y := if isGreatestLeft then d else if isLeastRight then b else c
  if isLess order y x then [least, y, x, greatest] else [least, x, y, greatest]

def sortFour {α : Type} (order : α → α → Ordering) (p q r s : α) : List α :=
  let (a, b) := if isLess order q p then (q, p) else (p, q)
  let (c, d) := if isLess order s r then (s, r) else (r, s)
  mergePairs order a b c d

def shortStretch : Nat := 32

def sortHalf {α : Type} (order : α → α → Ordering) (count : Nat) (half : List α) : List α :=
  match half with
  | p :: q :: r :: s :: rest =>
    if 8 ≤ count then insertAll order (sortFour order p q r s) rest else sort order half
  | _ => sort order half

def sortShort {α : Type} (order : α → α → Ordering) (elements : List α) : Option (List α) :=
  let count := elements.length
  if count < 2 then some elements
  else mergeFromEnds order (sortHalf order count (elements.take (count / 2)))
    (sortHalf order count (elements.drop (count / 2)))

structure Run (α : Type) where
  elements : List α
  isSorted : Bool

def countOnward {α : Type} (order : α → α → Ordering) (down : Bool) : α → List α → Nat
  | _, [] => 0
  | x, y :: rest => if isLess order y x = down then countOnward order down y rest + 1 else 0

def orderedStart {α : Type} (order : α → α → Ordering) : List α → Nat × Bool
  | x :: y :: rest =>
    let down := isLess order y x
    (countOnward order down y rest + 2, down)
  | elements => (elements.length, false)

def firstRun {α : Type} (order : α → α → Ordering) (eager : Bool) (least : Nat)
    (elements : List α) : Option (Run α × List α) :=
  let (count, down) := orderedStart order elements
  if least ≤ count then
    let run := elements.take count
    some (⟨if down then run.reverse else run, true⟩, elements.drop count)
  else if eager then do
    let run ← sortShort order (elements.take shortStretch)
    return (⟨run, true⟩, elements.drop shortStretch)
  else some (⟨elements.take least, false⟩, elements.drop least)

def Run.sorted {α : Type} (sortRun : List α → Option (List α)) (run : Run α) : Option (List α) :=
  if run.isSorted then some run.elements else sortRun run.elements

-- Sorted runs are merged, and two that are to be sorted become one.
def Run.join {α : Type} (order : α → α → Ordering) (sortRun : List α → Option (List α)) (a b : Run α) :
    Option (Run α) :=
  if a.isSorted || b.isSorted then do
    let xs ← a.sorted sortRun
    let ys ← b.sorted sortRun
    return ⟨merge order xs ys, true⟩
  else some ⟨a.elements ++ b.elements, false⟩

-- Runs that wait to be joined to the run behind them, the last first, each with the depth of the border behind it.
abbrev Waiting (α : Type) := List (Run α × Nat)

def joinWaiting {α : Type} (join : Run α → Run α → Option (Run α)) (depth : Nat) :
    Waiting α → Run α → Option (Waiting α × Run α)
  | [], run => some ([], run)
  | (before, border) :: waiting, run =>
    if depth ≤ border then do
      let joined ← join before run
      joinWaiting join depth waiting joined
    else some ((before, border) :: waiting, run)

-- How deep the border between two neighbouring runs lies if the whole list is halved again and again: the first
-- halving that comes between their middles.
def borderDepth (length first border last : Nat) : Nat :=
  let scale := (Nat.pow 2 62 + length - 1) / length
  let difference := Nat.xor (scale * (first + border)) (scale * (border + last))
  if difference = 0 then 64 else 63 - Nat.log2 difference

def joinRuns {α : Type} (next : List α → Option (Run α × List α)) (join : Run α → Run α → Option (Run α))
    (length : Nat) : Nat → Nat → Waiting α → Run α → List α → Option (Run α)
  | 0, _, waiting, run, _ => do
    let (_, joined) ← joinWaiting join 0 waiting run
    return joined
  | turns + 1, border, waiting, run, rest =>
    if rest.isEmpty then do
      let (_, joined) ← joinWaiting join 0 waiting run
      return joined
    else do
      let (following, rest) ← next rest
      let last := border + following.elements.length
      let depth := borderDepth length (border - run.elements.length) border last
      let (waiting, joined) ← joinWaiting join depth waiting run
      joinRuns next join length turns last ((joined, depth) :: waiting) following rest

def leastRun (length : Nat) : Nat :=
  if length ≤ 4096 then Nat.min (length - length / 2) 64
  else
    let shift := (Nat.log2 length + 1) / 2
    (Nat.pow 2 shift + length / Nat.pow 2 shift) / 2

def sortByRuns {α : Type} (order : α → α → Ordering) (eager : Bool) (sortRun : List α → Option (List α))
    (elements : List α) : Option (List α) := do
  let length := elements.length
  let next := firstRun order eager (leastRun length)
  let (run, rest) ← next elements
  let whole ← joinRuns next (Run.join order sortRun) length length run.elements.length [] run rest
  whole.sorted sortRun

def medianOfThree (less : Nat → Nat → Bool) (a b c : Nat) : Nat :=
  if less a b = less a c then
    if less b c = less a b then b else c
  else a

-- In longer lists each of the three stands for the median of its neighbourhood of `size` elements.
def medianOfParts (less : Nat → Nat → Bool) : Nat → Nat → Nat → Nat → Nat → Nat
  | 0, _, a, b, c => medianOfThree less a b c
  | turns + 1, size, a, b, c =>
    if size < 8 then medianOfThree less a b c
    else
      let part := size / 8
      let median (start : Nat) : Nat :=
        medianOfParts less turns part start (start + part * 4) (start + part * 7)
      medianOfThree less (median a) (median b) (median c)

def pivotPosition {α : Type} (order : α → α → Ordering) (elements : Array α) : Nat :=
  let less (i j : Nat) : Bool :=
    match elements[i]?, elements[j]? with
    | some x, some y => isLess order x y
    | _, _ => false
  let part := elements.size / 8
  medianOfParts less part part 0 (part * 4) (part * 7)

-- The elements that pass a test and those that do not, in order. For the one at a position it is known.
def partitionAt {α : Type} (test : α → Bool) (position : Nat) (known : Bool)
    (elements : List α) : List α × List α :=
  let (pass, fail) := (elements.take position).partition test
  let (passAfter, failAfter) := (elements.drop (position + 1)).partition test
  let pivot := (elements.drop position).take 1
  if known then (pass ++ pivot ++ passAfter, fail ++ failAfter)
  else (pass ++ passAfter, fail ++ pivot ++ failAfter)

-- Sorts around pivots: what is less than the pivot comes before the rest. If nothing is less, or the pivot is as
-- small as the one that bounds the list from below, all that is equal to it comes first. When the turns are used up,
-- runs are sorted instead, all of them eagerly.
def sortAround {α : Type} (order : α → α → Ordering) : Nat → Option α → List α → Option (List α)
  | turns, bound, elements =>
    if elements.length ≤ shortStretch then sortShort order elements
    else
      match turns with
      | 0 => sortByRuns order true some elements
      | turns + 1 =>
        let position := pivotPosition order elements.toArray
        match elements[position]? with
        | none => none
        | some pivot =>
          let isBound := bound.any fun b => !isLess order b pivot
          let (less, rest) := partitionAt (fun x => isLess order x pivot) position false elements
          if isBound || less.isEmpty then do
            let (equal, greater) :=
              partitionAt (fun x => !isLess order pivot x) position true elements
            let sorted ← sortAround order turns none greater
            return equal ++ sorted
          else do
            let before ← sortAround order turns bound less
            let after ← sortAround order turns (some pivot) rest
            return before ++ after

-- The stable sort of the standard library for long lists. Stretches that are in order already are kept, short ones are
-- sorted by insertion and long ones around a pivot; then neighbours are merged, those of like length first. In a
-- total order there is but one stable result. Unlike kinds of values, though, are equal to one another, and then
-- the result shows which elements have met, or there is none.
def sortLong {α : Type} (order : α → α → Ordering) (elements : List α) : Option (List α) :=
  sortByRuns order (decide (elements.length ≤ 2 * shortStretch))
    (fun run => sortAround order (2 * Nat.log2 run.length) none run) elements

end TreePath.Sorting
