import TreePath.Regex.Syntax
namespace TreePath.Regex

abbrev Label := Nat

inductive Instruction where
  | read (chars : CodeRanges) (next : Label)
  | look (condition : Look) (next : Label)
  | save (slot : Nat) (next : Label)
  | split (first second : Label)
  | accept
  | fail

abbrev Code := Array Instruction

def emit (i : Instruction) (code : Code) : Label × Code := (code.size, code.push i)

-- Of two ways out the first is preferred.
def branch (greedy : Bool) (turn onward : Label) : Instruction :=
  if greedy then .split turn onward else .split onward turn

abbrev Build := Label → Code → Label × Code

def turns (body : Build) : Nat → Build
  | 0, next, code => (next, code)
  | n + 1, next, code =>
    let (rest, code) := turns body n next code
    body rest code

def optionalTurns (body : Build) (greedy : Bool) : Nat → Build
  | 0, next, code => (next, code)
  | n + 1, next, code =>
    let (rest, code) := optionalTurns body greedy n next code
    let (start, code) := body rest code
    emit (branch greedy start next) code

def someTurns (body : Build) (greedy : Bool) : Build := fun next code =>
  let (back, code) := emit .fail code
  let (start, code) := body back code
  (start, code.setIfInBounds back (branch greedy start next))

def anyTurns (body : Build) (greedy : Bool) : Build := fun next code =>
  let (back, code) := emit .fail code
  let (start, code) := body back code
  (back, code.setIfInBounds back (branch greedy start next))

-- A turn that may be empty is offered once before it can be repeated, which keeps the order of preference.
def build : Node → Build
  | .empty, next, code => (next, code)
  | .literal codes, next, code =>
    codes.foldr (fun c (start, code) => emit (.read (CodeRanges.single c) start) code) (next, code)
  | .set chars, next, code => emit (.read chars next) code
  | .look condition, next, code => emit (.look condition next) code
  | .group index body, next, code =>
    let (close, code) := emit (.save (2 * index + 1) next) code
    let (start, code) := build body close code
    emit (.save (2 * index) start) code
  | .seq first second, next, code =>
    let (middle, code) := build second next code
    build first middle code
  | .alt first second, next, code =>
    let (right, code) := build second next code
    let (left, code) := build first next code
    emit (.split left right) code
  | .loop body least (some most) greedy, next, code =>
    let (middle, code) := optionalTurns (build body) greedy (most - least) next code
    turns (build body) least middle code
  | .loop body 0 none greedy, next, code =>
    if body.canBeEmpty then
      let (start, code) := someTurns (build body) greedy next code
      emit (branch greedy start next) code
    else anyTurns (build body) greedy next code
  | .loop body (least + 1) none greedy, next, code =>
    let (last, code) := someTurns (build body) greedy next code
    turns (build body) least last code

structure Program where
  code : Code
  start : Label

def Program.ofNode (node : Node) : Program :=
  let (accept, code) := emit .accept #[]
  let (start, code) := build (.group 0 node) accept code
  ⟨code, start⟩

end TreePath.Regex
