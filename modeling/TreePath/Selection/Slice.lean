import TreePath.Number.Integer
namespace TreePath.Slice

def position? (index : Int64) (length : Nat) : Option Nat :=
  let i := index.toInt
  let resolved := if i < 0 then i + length else i
  if 0 ≤ resolved ∧ resolved < length then some resolved.toNat else none

def resolve (length : Nat) (bound low high : Int) : Int :=
  let counted := if bound < 0 then bound + length else bound
  if counted < low then low else if high < counted then high else counted

def stride (step stop : Int) : Nat → Int → List Nat
  | 0, _ => []
  | turns + 1, position =>
    if (0 < step ∧ position < stop) ∨ (step < 0 ∧ stop < position) then
      position.toNat :: stride step stop turns (position + step)
    else []

def first (length : Nat) (start : Option Int64) (step : Int) : Int :=
  if 0 < step then start.elim 0 (fun n => resolve length n.toInt 0 length)
  else start.elim (length - 1) (fun n => resolve length n.toInt (-1) (length - 1))

def last (length : Nat) (stop : Option Int64) (step : Int) : Int :=
  if 0 < step then stop.elim length (fun n => resolve length n.toInt 0 length)
  else stop.elim (-1) (fun n => resolve length n.toInt (-1) (length - 1))

def positions (length : Nat) (start stop step : Option Int64) : List Nat :=
  let step := step.elim 1 Int64.toInt
  stride step (last length stop step) length (first length start step)

end TreePath.Slice
