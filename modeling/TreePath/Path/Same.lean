import TreePath.Path.Basic
namespace TreePath

def Literal.same : Literal → Literal → Bool
  | string a, string b => a == b
  | integer a, integer b => a == b
  | real a, real b => a == b
  | boolean a, boolean b => a == b
  | pattern a, pattern b => a.source == b.source
  | _, _ => false

mutual
def Path.same : Path → Path → Bool
  | .root, .root => true
  | .this, .this => true
  | .parent, .parent => true
  | .wildcard, .wildcard => true
  | .fields a, .fields b => a == b
  | .index a, .index b => a == b
  | .slice a b c, .slice x y z => a == x && b == y && c == z
  | .child a b, .child x y => a.same x && b.same y
  | .descendants a b, .descendants x y => a.same x && b.same y
  | .whereSome a b, .whereSome x y => a.same x && b.same y
  | .whereNone a b, .whereNone x y => a.same x && b.same y
  | .union a, .union x => samePaths a x
  | .filter a, .filter x => sameConditions a x
  | .sort a, .sort x => sameKeys a x
  | .arithmetic o a b, .arithmetic p x y => o == p && a.same x && b.same y
  | .named a, .named x => a == x
  | _, _ => false

def samePaths : List Path → List Path → Bool
  | [], [] => true
  | a :: as, b :: bs => a.same b && samePaths as bs
  | _, _ => false

def Condition.same : Condition → Condition → Bool
  | .present a, .present x => a.same x
  | .compare a o l, .compare x p m => a.same x && o == p && l.same m
  | _, _ => false

def sameConditions : List Condition → List Condition → Bool
  | [], [] => true
  | a :: as, b :: bs => a.same b && sameConditions as bs
  | _, _ => false

def SortKey.same : SortKey → SortKey → Bool
  | .mk d a, .mk e x => d == e && a.same x

def sameKeys : List SortKey → List SortKey → Bool
  | [], [] => true
  | a :: as, b :: bs => a.same b && sameKeys as bs
  | _, _ => false

def Operand.same : Operand → Operand → Bool
  | .literal a, .literal x => Value.same a x
  | .path a, .path x => a.same x
  | _, _ => false
end

end TreePath
