import TreePath.Number.Binary
namespace TreePath

-- The number `coefficient / 10 ^ scale`, negated if `negative`.
structure Decimal where
  negative : Bool
  coefficient : Nat
  scale : Nat
deriving DecidableEq

namespace Decimal

def bound : Nat := Nat.pow 2 96

def maxScale : Nat := 28

def zero : Decimal := ⟨false, 0, 0⟩

def ofInteger (n : Int64) : Decimal := ⟨decide (n.toInt < 0), n.toInt.natAbs, 0⟩

structure Scaled where
  coefficient : Nat
  power : Int

-- An even coefficient is halved and one place is saved; an odd one is multiplied by five, or halved with loss if it
-- would outgrow its bound.
def divideByFives : Nat → Scaled → Scaled
  | 0, s => s
  | fives + 1, s =>
    if s.coefficient % 2 = 0 then divideByFives fives ⟨s.coefficient / 2, s.power + 1⟩
    else if s.coefficient * 5 < bound then divideByFives fives ⟨s.coefficient * 5, s.power⟩
    else divideByFives fives ⟨s.coefficient / 2, s.power + 1⟩

def dropPlace (coefficient : Nat) : Nat :=
  coefficient / 10 + (if 5 ≤ coefficient % 10 then 1 else 0)

def dropExcess : Nat → Scaled → Scaled
  | 0, s => s
  | turns + 1, s =>
    if s.power < -(maxScale : Int) then
      if s.coefficient / 10 = 0 then ⟨0, 0⟩
      else dropExcess turns ⟨dropPlace s.coefficient, s.power + 1⟩
    else s

def dropUnsure : Nat → Scaled → Scaled
  | 0, s => s
  | turns + 1, s =>
    if s.power < 0 ∧ Nat.pow 2 52 ≤ s.coefficient then
      dropUnsure turns ⟨dropPlace s.coefficient, s.power + 1⟩
    else s

def dropZeros : Nat → Scaled → Scaled
  | 0, s => s
  | turns + 1, s =>
    if s.power < 0 ∧ s.coefficient % 10 = 0 then dropZeros turns ⟨s.coefficient / 10, s.power + 1⟩
    else s

-- A large whole number is kept exactly or not at all, any other number to fifteen or sixteen digits.
def ofFloat? (x : Float) : Option Decimal :=
  let parts := BinaryParts.ofFloat x
  if !x.isFinite then none
  else if 0 ≤ parts.power then
    let whole := parts.floor
    if whole < bound then some ⟨parts.negative, whole, 0⟩ else none
  else
    let scaled := divideByFives (-parts.power).toNat ⟨parts.magnitude, parts.power⟩
    let kept := dropExcess (-scaled.power).toNat scaled
    let sure := dropUnsure (-kept.power).toNat kept
    let short := dropZeros (-sure.power).toNat sure
    some ⟨parts.negative, short.coefficient, (-short.power).toNat⟩

def roundEven (coefficient tens : Nat) : Nat :=
  let unit := Nat.pow 10 tens
  let quotient := coefficient / unit
  let rest := coefficient % unit
  if unit < 2 * rest ∨ (2 * rest = unit ∧ quotient % 2 = 1) then quotient + 1 else quotient

def excess (coefficient : Nat) : Nat → Nat → Nat
  | 0, tens => tens
  | turns + 1, tens =>
    if bound ≤ coefficient / Nat.pow 10 tens then excess coefficient turns (tens + 1) else tens

def fit? (negative : Bool) (coefficient scale : Nat) : Option Decimal :=
  let tens := excess coefficient 64 (scale - maxScale)
  if tens = 0 then some ⟨negative, coefficient, scale⟩
  else if scale < tens then none
  else
    let rounded := roundEven coefficient tens
    if rounded < bound then some ⟨negative, rounded, scale - tens⟩
    else if scale = tens then none
    else some ⟨negative, roundEven rounded 1, scale - tens - 1⟩

def signed (d : Decimal) (scale : Nat) : Int :=
  let magnitude : Int := (d.coefficient * Nat.pow 10 (scale - d.scale) : Nat)
  if d.negative then -magnitude else magnitude

def add? (a b : Decimal) : Option Decimal :=
  if a.coefficient = 0 then some b
  else if b.coefficient = 0 then some a
  else
    let scale := Nat.max a.scale b.scale
    let sum := a.signed scale + b.signed scale
    fit? (decide (sum < 0)) sum.natAbs scale

def mul? (a b : Decimal) : Option Decimal :=
  if a.coefficient = 0 ∨ b.coefficient = 0 then some zero
  else fit? (a.negative != b.negative) (a.coefficient * b.coefficient) (a.scale + b.scale)

structure Quotient where
  value : Nat
  remainder : Nat
  scale : Int

def room (value : Nat) : Nat → Nat
  | 0 => 0
  | limit + 1 => if value * Nat.pow 10 (limit + 1) < bound then limit + 1 else room value limit

def Quotient.rounded (q : Quotient) (divisor : Nat) : Nat :=
  if divisor < 2 * q.remainder ∨ (2 * q.remainder = divisor ∧ q.value % 2 = 1) then q.value + 1
  else q.value

def Quotient.shed? (value : Nat) (scale : Int) (left : Bool) : Option (Nat × Int) :=
  if scale < 1 then none
  else
    let last := value % 10
    let up := decide (5 < last) || (decide (last = 5) && (left || decide (value / 10 % 2 = 1)))
    some (value / 10 + (if up then 1 else 0), scale - 1)

-- Up to nine places are added in a turn until the division comes out or no place is left. The last part of the answer
-- is whether there ever was a remainder.
def divideLoop (divisor : Nat) : Nat → Quotient → Bool → Option (Nat × Int × Bool)
  | 0, _, _ => none
  | turns + 1, q, inexact =>
    if q.remainder = 0 ∧ 0 ≤ q.scale then some (q.value, q.scale, inexact)
    else
      let inexact := inexact || decide (q.remainder ≠ 0)
      let places :=
        if q.remainder = 0 then Nat.min 9 (-q.scale).toNat
        else room q.value (Nat.min 9 ((maxScale : Int) - q.scale).toNat)
      if q.remainder ≠ 0 ∧ places < 9 ∧ (places : Int) + q.scale < 0 then none
      else if places = 0 then
        let value := q.rounded divisor
        if value < bound then some (value, q.scale, inexact)
        else (Quotient.shed? value q.scale true).map (fun s => (s.1, s.2, inexact))
      else
        let grown := q.value * Nat.pow 10 places
        if bound ≤ grown then none
        else
          let rest := q.remainder * Nat.pow 10 places
          let value := grown + rest / divisor
          let scale := q.scale + places
          if value < bound then divideLoop divisor turns ⟨value, rest % divisor, scale⟩ inexact
          else
            (Quotient.shed? value scale (decide (rest % divisor ≠ 0))).map
              (fun s => (s.1, s.2, inexact))

def takeZeros (bits zeros : Nat) (q : Nat × Nat) : Nat × Nat :=
  if q.1 % Nat.pow 2 bits = 0 ∧ zeros ≤ q.2 ∧ q.1 % Nat.pow 10 zeros = 0 then
    (q.1 / Nat.pow 10 zeros, q.2 - zeros)
  else q

-- Seven zeros may go and an eighth stay: eight at a time go from a coefficient that ends in 32 zero bits only.
def trimZeros (coefficient scale : Nat) : Nat × Nat :=
  let eights := takeZeros 32 8 (takeZeros 32 8 (takeZeros 32 8 (coefficient, scale)))
  takeZeros 1 1 (takeZeros 2 2 (takeZeros 4 4 eights))

def div? (a b : Decimal) : Option Decimal :=
  if b.coefficient = 0 then none
  else if a.coefficient = 0 then some zero
  else
    let start : Quotient :=
      ⟨a.coefficient / b.coefficient, a.coefficient % b.coefficient, (a.scale : Int) - b.scale⟩
    (divideLoop b.coefficient 64 start false).map (fun (value, scale, inexact) =>
      let (coefficient, scale) :=
        if inexact then trimZeros value scale.toNat else (value, scale.toNat)
      ⟨a.negative != b.negative, coefficient, scale⟩)

def toInteger? (d : Decimal) : Option Int64 :=
  if d.coefficient % Nat.pow 10 d.scale = 0 then
    let whole : Int := (d.coefficient / Nat.pow 10 d.scale : Nat)
    Integer.ofInt? (if d.negative then -whole else whole)
  else none

-- The whole part and the fraction are added as doubles, and the sum is rounded to the places of the number in doubles
-- too.
def toFloat (d : Decimal) : Float :=
  let unit := Nat.pow 10 d.scale
  let whole := Float.ofNat (d.coefficient / unit)
  let fraction := Float.ofNat (d.coefficient % unit) / Float.ofNat unit
  let magnitude :=
    if d.coefficient % unit = 0 then whole
    else
      let factor := Float.ofNat unit
      Binary.roundWhole ((whole + fraction) * factor) / factor
  if d.negative then -magnitude else magnitude

end Decimal
end TreePath
