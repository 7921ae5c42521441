import TreePath.Number.Shortest
namespace TreePath

namespace DigitString

def positional (s : DigitString) : List Char :=
  if s.point ≤ 0 then '0' :: '.' :: (List.replicate (-s.point).toNat '0' ++ s.digits)
  else
    let whole := s.point.toNat
    if s.digits.length ≤ whole then s.digits ++ List.replicate (whole - s.digits.length) '0'
    else s.digits.take whole ++ '.' :: s.digits.drop whole

def scientific (s : DigitString) : List Char :=
  let power := 'e' :: (Integer.textOfInt (s.point - 1)).toList
  match s.digits with
  | [] => power
  | [d] => d :: power
  | d :: rest => d :: '.' :: (rest ++ power)

end DigitString

namespace FloatText

def sign (x : Float) : String :=
  if (BinaryParts.ofFloat x).negative then "-" else ""

def special (x : Float) : String :=
  if x.isNaN then "NaN" else if x < 0 then "-inf" else "inf"

def digits (x : Float) : DigitString :=
  let parts := BinaryParts.ofFloat x
  if parts.magnitude = 0 then ⟨['0'], 1⟩ else Shortest.digits parts.magnitude parts.power

def isWhole (x : Float) : Bool := (BinaryParts.ofFloat x).isWhole

def isModest (x : Float) : Bool := decide ((BinaryParts.ofFloat x).floor < Nat.pow 10 16)

def isTiny (x : Float) : Bool :=
  let parts := BinaryParts.ofFloat x
  decide (parts.magnitude ≠ 0) &&
    decide (parts.power < 0 ∧ parts.magnitude * Nat.pow 10 4 < Nat.pow 2 (-parts.power).toNat)

def plain (x : Float) : String :=
  if x.isFinite then sign x ++ String.ofList (digits x).positional else special x

-- Large whole numbers lose their fraction. JSON has no text for what is not finite.
def json (x : Float) : String :=
  if !x.isFinite then "null"
  else if isWhole x && isModest x then plain x ++ ".0"
  else plain x

-- The spelling of a filter literal: whole numbers keep a fraction, and numbers of great or small magnitude have an
-- exponent.
def literal (x : Float) : String :=
  if !x.isFinite then special x
  else if isTiny x || !isModest x then sign x ++ String.ofList (digits x).scientific
  else if isWhole x then plain x ++ ".0"
  else plain x

end FloatText
end TreePath
