import TreePath.Number.Integer
namespace TreePath

-- The number `magnitude * 2 ^ power`, negated if `negative`.
structure BinaryParts where
  negative : Bool
  magnitude : Nat
  power : Int
deriving DecidableEq

namespace BinaryParts

-- A subnormal number has the lowest power.
def ofFloat (x : Float) : BinaryParts :=
  let bits : Nat := x.toBits.toNat
  let exponent : Nat := bits / Nat.pow 2 52 % Nat.pow 2 11
  let fraction : Nat := bits % Nat.pow 2 52
  let negative := decide (bits / Nat.pow 2 63 = 1)
  if exponent = 0 then ⟨negative, fraction, -1074⟩
  else ⟨negative, Nat.pow 2 52 + fraction, (exponent : Int) - 1075⟩

def floor (p : BinaryParts) : Nat :=
  if 0 ≤ p.power then p.magnitude * Nat.pow 2 p.power.toNat
  else p.magnitude / Nat.pow 2 (-p.power).toNat

def isWhole (p : BinaryParts) : Bool :=
  decide (0 ≤ p.power) || decide (p.magnitude % Nat.pow 2 (-p.power).toNat = 0)

def round (p : BinaryParts) : Nat :=
  if 0 ≤ p.power then p.magnitude * Nat.pow 2 p.power.toNat
  else
    let unit := Nat.pow 2 (-p.power).toNat
    (2 * p.magnitude + unit) / (2 * unit)

end BinaryParts

namespace Binary

def truncate (x : Float) : Int64 :=
  let parts := BinaryParts.ofFloat x
  Integer.clamp (if parts.negative then -(parts.floor : Int) else parts.floor)

def roundWhole (x : Float) : Float :=
  let parts := BinaryParts.ofFloat x
  if 0 ≤ parts.power then x
  else
    let whole := Float.ofNat parts.round
    if parts.negative then -whole else whole

def ofInteger (n : Int64) : Float := Float.ofInt n.toInt

def compare? (a b : Float) : Option Ordering :=
  if a < b then some .lt
  else if a == b then some .eq
  else if b < a then some .gt
  else none

end Binary
end TreePath
