import TreePath.Value.Basic
namespace TreePath
namespace Json

-- Integers from zero up, integers below zero, and doubles. A tree has signed integers and doubles only.
inductive Number where
  | unsigned (n : UInt64)
  | negative (n : Int64) (below_zero : n.toInt < 0)
  | real (x : Float) (finite : x.isFinite = true)

inductive Document where
  | null
  | boolean (b : Bool)
  | number (n : Number)
  | string (s : String)
  | array (items : List Document)
  | object (members : List (String × Document))

instance : Inhabited Document := ⟨.null⟩

namespace Number

def toValue : Number → Value
  | unsigned n =>
    match Integer.ofInt? n.toNat with
    | some m => .integer m
    | none => .float (Float.ofNat n.toNat)
  | negative n _ => .integer n
  | real x _ => .float x

def ofInteger (n : Int64) : Number :=
  if h : n.toInt < 0 then negative n h else unsigned (UInt64.ofNat n.toInt.toNat)

end Number

namespace Document

mutual
def toValue : Document → Value
  | null => .null
  | boolean b => .boolean b
  | number n => n.toValue
  | string s => .string s
  | array items => .array (itemsToValues items)
  | object members => .object (membersToValues members)

def itemsToValues : List Document → List Value
  | [] => []
  | item :: rest => toValue item :: itemsToValues rest

def membersToValues : List (String × Document) → List (String × Value)
  | [] => []
  | (name, value) :: rest => (name, toValue value) :: membersToValues rest
end

mutual
-- A double that is not finite has no place in a document and becomes null.
def ofValue : Value → Document
  | .null => null
  | .boolean b => boolean b
  | .float x => if h : x.isFinite = true then number (.real x h) else null
  | .integer n => number (.ofInteger n)
  | .string s => string s
  | .array items => array (itemsOfValues items)
  | .object members => object (membersOfValues members)

def itemsOfValues : List Value → List Document
  | [] => []
  | item :: rest => ofValue item :: itemsOfValues rest

def membersOfValues : List (String × Value) → List (String × Document)
  | [] => []
  | (name, value) :: rest => (name, ofValue value) :: membersOfValues rest
end

-- The first member keeps its place when a name comes again; the last value is kept.
def insertMember (name : String) (value : Document) :
    List (String × Document) → List (String × Document)
  | [] => [(name, value)]
  | (key, old) :: rest =>
    if key = name then (key, value) :: rest else (key, old) :: insertMember name value rest

end Document
end Json
end TreePath
