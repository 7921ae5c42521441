import TreePath.Text.CharClass
namespace TreePath.Integer

def lowest : Int := -9223372036854775808
def highest : Int := 9223372036854775807

def ofInt? (n : Int) : Option Int64 :=
  if lowest ≤ n ∧ n ≤ highest then some (Int64.ofInt n) else none

def clamp (n : Int) : Int64 :=
  if n < lowest then Int64.ofInt lowest
  else if highest < n then Int64.ofInt highest
  else Int64.ofInt n

def textOfInt : Int → String
  | .ofNat n => n.repr
  | .negSucc n => "-" ++ (n + 1).repr

def text (n : Int64) : String := textOfInt n.toInt

def ofDigits (digits : List Char) : Nat := Nat.ofDigitChars 10 digits 0

def readDigits? (text : List Char) : Option Nat :=
  if text ≠ [] ∧ text.all CharClass.isDigit then some (ofDigits text) else none

def read? (text : List Char) : Option Int64 :=
  match text with
  | '-' :: digits => (readDigits? digits).bind (fun n => ofInt? (-(n : Int)))
  | '+' :: digits => (readDigits? digits).bind (fun n => ofInt? n)
  | digits => (readDigits? digits).bind (fun n => ofInt? n)

end TreePath.Integer
