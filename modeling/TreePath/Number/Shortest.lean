import TreePath.Number.Binary
namespace TreePath

-- The number `0.d₁d₂… * 10 ^ point`, for digits `d₁d₂…`.
structure DigitString where
  digits : List Char
  point : Int
deriving DecidableEq

namespace Shortest

structure Interval where
  low : Nat
  value : Nat
  high : Nat
  denominator : Nat
  closed : Bool

-- The interval of `m * 2 ^ q`. Below a power of two the neighbour is twice as near.
def Interval.of (m : Nat) (q : Int) : Interval :=
  let shift := q - 2
  let factor := if 0 ≤ shift then Nat.pow 2 shift.toNat else 1
  let below := if m = Nat.pow 2 52 ∧ -1074 < q then 1 else 2
  { low := (4 * m - below) * factor
    value := 4 * m * factor
    high := (4 * m + 2) * factor
    denominator := if 0 ≤ shift then 1 else Nat.pow 2 (-shift).toNat
    closed := decide (m % 2 = 0) }

def Interval.reaches (i : Interval) (k : Int) : Bool :=
  if 0 ≤ k then decide (i.denominator * Nat.pow 10 k.toNat ≤ i.value)
  else decide (i.denominator ≤ i.value * Nat.pow 10 (-k).toNat)

def pointFrom (i : Interval) : Nat → Int → Int
  | 0, k => k
  | turns + 1, k => if i.reaches k then pointFrom i turns (k + 1) else k

def neighbour? (i : Interval) (unit : Int) : Option Nat :=
  let scale := if unit < 0 then Nat.pow 10 (-unit).toNat else 1
  let step := if unit < 0 then i.denominator else i.denominator * Nat.pow 10 unit.toNat
  let low := i.low * scale
  let value := i.value * scale
  let high := i.high * scale
  let floor := value / step
  let within (n : Nat) : Bool :=
    decide (low < n * step ∧ n * step < high) ||
      (i.closed && decide (low = n * step ∨ n * step = high))
  match within floor, within (floor + 1) with
  | true, true => some (if step ≤ 2 * (value - floor * step) then floor + 1 else floor)
  | true, false => some floor
  | false, true => some (floor + 1)
  | false, false => none

-- On a grid, if any point lies in the interval, one of the two neighbours of the number does; seventeen digits always
-- suffice.
def search (i : Interval) (point : Int) : Nat → Nat → Nat × Nat
  | 0, count => (i.value / i.denominator, count)
  | turns + 1, count =>
    match neighbour? i (point - count) with
    | some n => (n, count)
    | none => search i point turns (count + 1)

def digitString (n count : Nat) (point : Int) : DigitString :=
  let digits := Nat.toDigits 10 n
  { digits := (digits.reverse.dropWhile (· == '0')).reverse
    point := point + (digits.length - count : Int) }

def digits (m : Nat) (q : Int) : DigitString :=
  let interval := Interval.of m q
  let estimate := ((Nat.log2 m : Int) + q) * 30103 / 100000
  let point := pointFrom interval 4 (estimate - 1)
  let found := search interval point 17 1
  digitString found.1 found.2 point

end Shortest
end TreePath
