namespace TreePath

def compareInt (a b : Int) : Ordering :=
  if a < b then .lt else if a = b then .eq else .gt

def compareChars : List Char → List Char → Ordering
  | [], [] => .eq
  | [], _ :: _ => .lt
  | _ :: _, [] => .gt
  | a :: as, b :: bs =>
    if a.toNat < b.toNat then .lt
    else if a.toNat = b.toNat then compareChars as bs
    else .gt

def compareText (a b : String) : Ordering := compareChars a.toList b.toList

def compareBool : Bool → Bool → Ordering
  | false, true => .lt
  | true, false => .gt
  | _, _ => .eq

end TreePath
