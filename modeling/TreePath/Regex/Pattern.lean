import TreePath.Regex.Reader
import TreePath.Regex.Search
import TreePath.Regex.Template
namespace TreePath

structure Pattern where
  source : String
  expression : Regex.Expression
  reads : Regex.read source.toList = .ok expression

namespace Pattern

def ofSource (source : String) : Except Regex.Fault Pattern :=
  match h : Regex.read source.toList with
  | .ok expression => .ok ⟨source, expression, h⟩
  | .error fault => .error fault

theorem eq_of_source_eq {p q : Pattern} (same : p.source = q.source) : p = q := by
  cases p with
  | mk source expression reads =>
    cases q with
    | mk source' expression' reads' =>
      cases same
      have equal := reads.symm.trans reads'
      cases equal
      rfl

instance : DecidableEq Pattern := fun p q =>
  if h : p.source = q.source then .isTrue (eq_of_source_eq h)
  else .isFalse (fun equal => h (congrArg source equal))

def program (p : Pattern) : Regex.Program := Regex.Program.ofNode p.expression.node

def isMatch (p : Pattern) (text : String) : Bool :=
  (Regex.search? p.program p.expression.groups text.toList.toArray 0).isSome

structure Occurrence where
  first : Nat
  last : Nat
  slots : Regex.Slots

def occurrence? (p : Pattern) (program : Regex.Program) (text : Array Char) (start : Nat) :
    Option Occurrence :=
  if text.size < start then none
  else
    (Regex.search? program p.expression.groups text start).bind fun slots =>
      match slots[0]?, slots[1]? with
      | some (some first), some (some last) => some ⟨first, last, slots⟩
      | _, _ => none

-- An empty match right at the end of the one before does not count; the search goes on a character later.
def occurrencesFrom (p : Pattern) (program : Regex.Program) (text : Array Char) :
    Nat → Nat → Option Nat → List Occurrence
  | 0, _, _ => []
  | turns + 1, start, last =>
    let found := occurrence? p program text start
    let found :=
      match found with
      | some o =>
        if o.first = o.last ∧ last = some o.last then occurrence? p program text (start + 1)
        else found
      | none => none
    match found with
    | none => []
    | some o => o :: occurrencesFrom p program text turns o.last (some o.last)

-- A text of `n` characters has at most `2 * n + 2` matches.
def occurrences (p : Pattern) (text : Array Char) : List Occurrence :=
  occurrencesFrom p p.program text (2 * text.size + 2) 0 none

def Occurrence.group (o : Occurrence) (text : Array Char) (n : Nat) : List Char :=
  match o.slots[2 * n]?, o.slots[2 * n + 1]? with
  | some (some first), some (some last) => (text.extract first last).toList
  | _, _ => []

def replaceAll (p : Pattern) (template text : String) : String :=
  let chars := text.toList.toArray
  let filled (o : Occurrence) : List Char :=
    Regex.expand (o.group chars)
      (fun name =>
        match p.expression.names.find? (fun entry => entry.1.toList == name) with
        | some (_, n) => o.group chars n
        | none => [])
      template.toList
  let step (state : Nat × List (List Char)) (o : Occurrence) : Nat × List (List Char) :=
    (o.last, filled o :: (chars.extract state.1 o.first).toList :: state.2)
  let (last, parts) := (p.occurrences chars).foldl step (0, [])
  String.ofList (((chars.extract last chars.size).toList :: parts).reverse.flatten)

end Pattern
end TreePath
