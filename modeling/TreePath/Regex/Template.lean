import TreePath.Number.Integer
import TreePath.Text.CodeRanges
namespace TreePath.Regex

inductive Piece where
  | char (c : Char)
  | number (n : Nat)
  | name (s : List Char)
deriving DecidableEq

def isReferenceChar (c : Char) : Bool :=
  decide (c.toNat < 128) && (c.isAlphanum || c == '_')

def reference (text : List Char) : Piece :=
  let digits :=
    match text with
    | '+' :: rest => rest
    | text => text
  match Integer.readDigits? digits with
  | some n => if n < Nat.pow 2 64 then .number n else .name text
  | none => .name text

def readReference? (text : List Char) : Option (Piece × List Char) :=
  match text with
  | '\x7b' :: rest =>
    match rest.dropWhile (· ≠ '\x7d') with
    | _ :: after => some (reference (rest.takeWhile (· ≠ '\x7d')), after)
    | [] => none
  | text =>
    if text.takeWhile isReferenceChar = [] then none
    else some (reference (text.takeWhile isReferenceChar), text.dropWhile isReferenceChar)

-- Two dollar signs stand for one, and a dollar sign that starts no reference stands for itself. Every turn reads at
-- least one character.
def piecesIn : Nat → List Char → List Piece
  | 0, _ => []
  | _ + 1, [] => []
  | turns + 1, c :: rest =>
    if c ≠ '$' then .char c :: piecesIn turns rest
    else
      match rest with
      | '$' :: rest => .char '$' :: piecesIn turns rest
      | rest =>
        match readReference? rest with
        | some (piece, rest) => piece :: piecesIn turns rest
        | none => .char '$' :: piecesIn turns rest

def pieces (template : List Char) : List Piece := piecesIn template.length template

def expand (byNumber : Nat → List Char) (byName : List Char → List Char)
    (template : List Char) : List Char :=
  (pieces template).flatMap fun piece =>
    match piece with
    | .char c => [c]
    | .number n => byNumber n
    | .name s => byName s

end TreePath.Regex
