import TreePath.Text.CodeRanges
namespace TreePath.Regex.Utf8

abbrev ByteRange := Nat × Nat

def encode (c : Nat) : List Nat :=
  if c < 0x80 then [c]
  else if c < 0x800 then [0xC0 + c / 0x40, 0x80 + c % 0x40]
  else if c < 0x10000 then [0xE0 + c / 0x1000, 0x80 + c / 0x40 % 0x40, 0x80 + c % 0x40]
  else
    [0xF0 + c / 0x40000, 0x80 + c / 0x1000 % 0x40, 0x80 + c / 0x40 % 0x40, 0x80 + c % 0x40]

-- Where a range has to be cut so that its last `unit` characters or its first ones make whole units.
def unitCut? (first last unit : Nat) : Option Nat :=
  if first / unit = last / unit then none
  else if first % unit ≠ 0 then some (first / unit * unit + unit - 1)
  else if last % unit ≠ unit - 1 then some (last / unit * unit - 1)
  else none

def cut? (first last : Nat) : Option Nat :=
  match [0x7F, 0x7FF, 0xFFFF].find? (fun most => decide (first ≤ most ∧ most < last)) with
  | some most => some most
  | none =>
    if last < 0x80 then none
    else
      unitCut? first last 0x40 <|> unitCut? first last 0x1000 <|> unitCut? first last 0x40000

-- A range has fewer than thirty sequences.
def sequencesOf : Nat → List (Nat × Nat) → List (List ByteRange)
  | 0, _ => []
  | _, [] => []
  | turns + 1, (first, last) :: rest =>
    if last < first then sequencesOf turns rest
    else if first < 0xE000 ∧ 0xD7FF < last then
      sequencesOf turns ((first, 0xD7FF) :: (0xE000, last) :: rest)
    else
      match cut? first last with
      | some most => sequencesOf turns ((first, most) :: (most + 1, last) :: rest)
      | none => (encode first).zip (encode last) :: sequencesOf turns rest

def sequences (range : Nat × Nat) : List (List ByteRange) := sequencesOf 100 [range]

end TreePath.Regex.Utf8
