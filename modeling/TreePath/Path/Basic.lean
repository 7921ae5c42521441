import TreePath.Regex.Pattern
import TreePath.Value.Basic
namespace TreePath

inductive CompareOperator where
  | equal | notEqual | less | greater | lessEqual | greaterEqual | matching
deriving DecidableEq

namespace CompareOperator

def accepts : CompareOperator → Ordering → Bool
  | equal, o => o == .eq
  | notEqual, o => o != .eq
  | less, o => o == .lt
  | greater, o => o == .gt
  | lessEqual, o => o != .gt
  | greaterEqual, o => o != .lt
  | matching, _ => false

def symbol : CompareOperator → String
  | equal => "="
  | notEqual => "!="
  | less => "<"
  | greater => ">"
  | lessEqual => "<="
  | greaterEqual => ">="
  | matching => "=~"

end CompareOperator

inductive ArithmeticOperator where
  | add | multiply | divide
deriving DecidableEq

def ArithmeticOperator.symbol : ArithmeticOperator → String
  | add => "+"
  | multiply => "*"
  | divide => "/"

inductive Direction where
  | ascending | descending
deriving DecidableEq

def Direction.symbol : Direction → String
  | ascending => "/"
  | descending => "\\"

inductive Literal where
  | string (s : String)
  | integer (n : Int64)
  | real (x : Float)
  | boolean (b : Bool)
  | pattern (p : Pattern)
deriving DecidableEq

inductive Selector where
  | piece (index : Int64)
  | range (start stop : Option Int64)
deriving DecidableEq

inductive NamedOperator where
  | len
  | keys
  | sorted
  | str
  | sub (pattern : Pattern) (template : String)
  | split (separator : String) (selector : Selector) (limit : Int64)
deriving DecidableEq

mutual
inductive Path where
  | root
  | this
  | parent
  | wildcard
  | fields (names : List String)
  | index (i : Int64)
  | slice (start stop step : Option Int64)
  | child (left right : Path)
  | descendants (left right : Path)
  | whereSome (left right : Path)
  | whereNone (left right : Path)
  | union (alternatives : List Path)
  | filter (conditions : List Condition)
  | sort (keys : List SortKey)
  | arithmetic (operator : ArithmeticOperator) (left right : Operand)
  | named (operator : NamedOperator)

inductive Condition where
  | present (target : Path)
  | compare (target : Path) (operator : CompareOperator) (literal : Literal)

inductive SortKey where
  | mk (direction : Direction) (path : Path)

inductive Operand where
  | literal (value : Value)
  | path (path : Path)
end

namespace Path

instance : Inhabited Path := ⟨this⟩

def field (name : String) : Path := fields [name]

def fullSlice : Path := slice none none none

-- Steps that go nowhere are left out: the current value on either side, and what stands before a return to the top.
def after (left right : Path) : Path :=
  match left, right with
  | this, right => right
  | root, right => right
  | left, this => left
  | _, root => root
  | left, right => child left right

def chain (segments : List Path) : Path := segments.foldl after this

end Path

-- A lone field name is text where arithmetic needs an operand.
def Operand.literalized : Operand → Operand
  | .path (.fields [name]) => .literal (.string name)
  | operand => operand

end TreePath
