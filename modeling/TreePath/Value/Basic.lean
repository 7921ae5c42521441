import TreePath.Number.Binary
import TreePath.Text.Pieces
import TreePath.Text.Order
namespace TreePath

inductive Value where
  | null
  | boolean (b : Bool)
  | float (x : Float)
  | integer (n : Int64)
  | string (s : String)
  | array (items : List Value)
  | object (members : List (String × Value))

namespace Value

instance : Inhabited Value := ⟨null⟩

def lookup (name : String) : List (String × Value) → Option Value
  | [] => none
  | (key, value) :: rest => if key = name then some value else lookup name rest

def insertMember (name : String) (value : Value) :
    List (String × Value) → List (String × Value)
  | [] => [(name, value)]
  | (key, old) :: rest =>
    if key = name then (key, value) :: rest else (key, old) :: insertMember name value rest

def get? (name : String) : Value → Option Value
  | object members => lookup name members
  | _ => none

def kind : Value → String
  | null => "null"
  | boolean _ => "boolean"
  | float _ => "float"
  | integer _ => "integer"
  | string _ => "string"
  | array _ => "array"
  | object _ => "object"

def length? : Value → Option Nat
  | string s => some s.toList.length
  | array items => some items.length
  | object members => some members.length
  | _ => none

def text? : Value → Option String
  | string s => some s
  | _ => none

def isNull : Value → Bool
  | null => true
  | _ => false

def isArray : Value → Bool
  | array _ => true
  | _ => false

def float? : Value → Option Float
  | integer n => some (Binary.ofInteger n)
  | float x => some x
  | _ => none

def integer? : Value → Option Int64
  | integer n => some n
  | float x => if x.isFinite then some (Binary.truncate x) else none
  | string s => Integer.read? (Pieces.trim s.toList)
  | _ => none

-- Doubles are compared as numbers, so that the two zeros agree, and objects as sets of members. An integer is never
-- the same as a double.
mutual
def same : Value → Value → Bool
  | null, null => true
  | boolean a, boolean b => a == b
  | float a, float b => a == b
  | integer a, integer b => a == b
  | string a, string b => a == b
  | array as, array bs => sameItems as bs
  | object as, object bs => as.length == bs.length && sameMembers as bs
  | _, _ => false

def sameItems : List Value → List Value → Bool
  | [], [] => true
  | a :: as, b :: bs => same a b && sameItems as bs
  | _, _ => false

def sameMembers : List (String × Value) → List (String × Value) → Bool
  | [], _ => true
  | (name, a) :: rest, others =>
    (match lookup name others with
      | some b => same a b
      | none => false) && sameMembers rest others
end

mutual
def UniqueNames : Value → Prop
  | array items => ItemsUnique items
  | object members => (members.map Prod.fst).Nodup ∧ MembersUnique members
  | _ => True

def ItemsUnique : List Value → Prop
  | [] => True
  | item :: rest => UniqueNames item ∧ ItemsUnique rest

def MembersUnique : List (String × Value) → Prop
  | [] => True
  | (_, value) :: rest => UniqueNames value ∧ MembersUnique rest
end

end Value

theorem forall_mem_of_parts {α : Type} {holds : α → Prop} {all : List α → Prop} {items : List α}
    (none : all []) (some : ∀ item rest, all (item :: rest) ↔ holds item ∧ all rest) :
    all items ↔ ∀ item ∈ items, holds item := by
  induction items with
  | nil => simp [none]
  | cons item rest ih => rw [some, ih, List.forall_mem_cons]

end TreePath
