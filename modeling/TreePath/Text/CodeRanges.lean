namespace TreePath

structure CodeRanges where
  ranges : Array (Nat × Nat)
deriving DecidableEq

namespace CodeRanges

def highest : Nat := 0x10FFFF

-- Adds a range that starts no lower than the ranges before it, which are held last first.
def join (before : List (Nat × Nat)) (range : Nat × Nat) : List (Nat × Nat) :=
  match before with
  | [] => [range]
  | (low, high) :: earlier =>
    if range.1 ≤ high + 1 then (low, Nat.max high range.2) :: earlier
    else range :: before

def ofList (ranges : List (Nat × Nat)) : CodeRanges :=
  let sorted := ranges.mergeSort (fun a b => decide (a.1 ≤ b.1))
  ⟨(sorted.foldl join []).reverse.toArray⟩

def empty : CodeRanges := ⟨#[]⟩

def single (c : Nat) : CodeRanges := ⟨#[(c, c)]⟩

-- Every turn makes the stretch shorter.
def containsBetween (ranges : Array (Nat × Nat)) (c : Nat) : Nat → Nat → Nat → Bool
  | 0, _, _ => false
  | turns + 1, low, high =>
    if low < high then
      let middle := (low + high) / 2
      match ranges[middle]? with
      | none => false
      | some (first, final) =>
        if c < first then containsBetween ranges c turns low middle
        else if final < c then containsBetween ranges c turns (middle + 1) high
        else true
    else false

def contains (set : CodeRanges) (c : Nat) : Bool :=
  containsBetween set.ranges c (set.ranges.size + 1) 0 set.ranges.size

def isEmpty (set : CodeRanges) : Bool := set.ranges.isEmpty

def union (a b : CodeRanges) : CodeRanges := ofList (a.ranges.toList ++ b.ranges.toList)

def gaps : Nat → List (Nat × Nat) → List (Nat × Nat)
  | next, [] => if next ≤ highest then [(next, highest)] else []
  | next, (low, high) :: rest =>
    if next < low then (next, low - 1) :: gaps (high + 1) rest else gaps (high + 1) rest

def complement (set : CodeRanges) : CodeRanges := ⟨(gaps 0 set.ranges.toList).toArray⟩

def intersection (a b : CodeRanges) : CodeRanges := (a.complement.union b.complement).complement

def difference (a b : CodeRanges) : CodeRanges := a.intersection b.complement

def symmetricDifference (a b : CodeRanges) : CodeRanges := (a.difference b).union (b.difference a)

def isAscii (set : CodeRanges) : Bool := set.ranges.all (fun range => decide (range.2 < 128))

def hexDigit? (c : Char) : Option Nat :=
  let n := c.toNat
  if 48 ≤ n ∧ n ≤ 57 then some (n - 48)
  else if 65 ≤ n ∧ n ≤ 70 then some (n - 55)
  else if 97 ≤ n ∧ n ≤ 102 then some (n - 87)
  else none

structure Partial where
  first : Option Nat
  number : Option Nat

def Partial.range (p : Partial) : List (Nat × Nat) :=
  match p.first, p.number with
  | some low, some high => [(low, high)]
  | none, some n => [(n, n)]
  | _, none => []

def read : List Char → Partial → List (Nat × Nat) → List (Nat × Nat)
  | [], p, done => (p.range ++ done).reverse
  | c :: rest, p, done =>
    match hexDigit? c with
    | some d => read rest { p with number := some (p.number.getD 0 * 16 + d) } done
    | none =>
      if c = '-' then read rest ⟨p.number, none⟩ done
      else read rest ⟨none, none⟩ (p.range ++ done)

def ofText (text : String) : CodeRanges :=
  ⟨(read text.toList ⟨none, none⟩ []).toArray⟩

end CodeRanges
end TreePath
