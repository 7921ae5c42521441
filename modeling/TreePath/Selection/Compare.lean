import TreePath.Path.Basic
namespace TreePath

-- An integer literal turns numbers and texts into integers; a real one compares with numbers of both kinds.
def Literal.accepts (operator : CompareOperator) (value : Value) : Literal → Bool
  | pattern p =>
    match value with
    | .string s => p.isMatch s
    | _ => false
  | integer n =>
    match value.integer? with
    | some m => operator.accepts (compareInt m.toInt n.toInt)
    | none => false
  | real x =>
    match value.float?.bind (fun y => Binary.compare? y x) with
    | some order => operator.accepts order
    | none => false
  | string s =>
    match value with
    | .string t => operator.accepts (compareText t s)
    | _ => false
  | boolean b =>
    match value with
    | .boolean c => operator.accepts (compareBool c b)
    | _ => false

-- Kinds that cannot be compared are equal.
def Value.order : Value → Value → Ordering
  | .integer a, .integer b => compareInt a.toInt b.toInt
  | .float a, .float b => (Binary.compare? a b).getD .eq
  | .integer a, .float b => (Binary.compare? (Binary.ofInteger a) b).getD .eq
  | .float a, .integer b => (Binary.compare? a (Binary.ofInteger b)).getD .eq
  | .string a, .string b => compareText a b
  | .boolean a, .boolean b => compareBool a b
  | _, _ => .eq

end TreePath
