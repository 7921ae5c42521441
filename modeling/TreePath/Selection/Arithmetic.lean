import TreePath.Number.Decimal
import TreePath.Path.Basic
namespace TreePath.Arithmetic

def integers (operator : ArithmeticOperator) (a b : Int64) : Option Value :=
  match operator with
  | .add => (Integer.ofInt? (a.toInt + b.toInt)).map Value.integer
  | .multiply => (Integer.ofInt? (a.toInt * b.toInt)).map Value.integer
  | .divide =>
    if b.toInt = 0 then none
    else if Int.tmod a.toInt b.toInt = 0 then
      (Integer.ofInt? (Int.tdiv a.toInt b.toInt)).map Value.integer
    else some (.float (Binary.ofInteger a / Binary.ofInteger b))

def floats (operator : ArithmeticOperator) (a b : Float) : Option Value :=
  let result :=
    match operator with
    | .add => a + b
    | .multiply => a * b
    | .divide => a / b
  if result.isFinite then some (.float result) else none

def decimals (operator : ArithmeticOperator) (a b : Decimal) : Option Value :=
  let result :=
    match operator with
    | .add => a.add? b
    | .multiply => a.mul? b
    | .divide => a.div? b
  result.map fun d =>
    match d.toInteger? with
    | some n => .integer n
    | none => .float d.toFloat

-- A double too large for a decimal number leaves the arithmetic to doubles.
def mixed (operator : ArithmeticOperator) (a : Int64) (b : Float) (swapped : Bool) : Option Value :=
  match Decimal.ofFloat? b with
  | some d =>
    if swapped then decimals operator d (Decimal.ofInteger a)
    else decimals operator (Decimal.ofInteger a) d
  | none =>
    if swapped then floats operator b (Binary.ofInteger a)
    else floats operator (Binary.ofInteger a) b

def repeated {α : Type} (items : List α) (n : Int64) : List α :=
  if items.isEmpty then [] else (List.replicate n.toInt.toNat items).flatten

def repeatedText (s : String) (n : Int64) : Value :=
  .string (String.ofList (repeated s.toList n))

def apply (operator : ArithmeticOperator) : Value → Value → Option Value
  | .integer a, .integer b => integers operator a b
  | .float a, .float b => floats operator a b
  | .integer a, .float b => mixed operator a b false
  | .float a, .integer b => mixed operator b a true
  | .string a, .string b => if operator = .add then some (.string (a ++ b)) else none
  | .string s, .integer n => if operator = .multiply then some (repeatedText s n) else none
  | .integer n, .string s => if operator = .multiply then some (repeatedText s n) else none
  | .array a, .array b => if operator = .add then some (.array (a ++ b)) else none
  | .array items, .integer n =>
    if operator = .multiply then some (.array (repeated items n)) else none
  | .integer n, .array items =>
    if operator = .multiply then some (.array (repeated items n)) else none
  | _, _ => none

inductive Side where
  | literal (value : Value)
  | found (values : List Value)

def all : List (Option Value) → Option (List Value)
  | [] => some []
  | none :: _ => none
  | some value :: rest => (all rest).map (value :: ·)

-- A literal meets every value of the other side; two lists of values meet pair by pair and have to be equally long
-- and not empty.
def combine (operator : ArithmeticOperator) (left right : Side) : List Value :=
  let results :=
    match left, right with
    | .literal a, .literal b => all [apply operator a b]
    | .found as, .literal b => all (as.map fun a => apply operator a b)
    | .literal a, .found bs => all (bs.map fun b => apply operator a b)
    | .found as, .found bs =>
      if as.isEmpty || as.length != bs.length then none
      else all (as.zipWith (apply operator) bs)
  results.getD []

end TreePath.Arithmetic
