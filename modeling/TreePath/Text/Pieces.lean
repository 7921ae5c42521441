import TreePath.Text.CharClass
namespace TreePath.Pieces

def cut? (separator : List Char) : List Char → Option (List Char × List Char)
  | [] => if separator = [] then some ([], []) else none
  | c :: rest =>
    match separator.isPrefixOf? (c :: rest) with
    | some after => some ([], after)
    | none => (cut? separator rest).map (fun found => (c :: found.1, found.2))

def cutLast? (separator text : List Char) : Option (List Char × List Char) :=
  (cut? separator.reverse text.reverse).map (fun found => (found.2.reverse, found.1.reverse))

def splitAtMost (separator : List Char) : Nat → List Char → List (List Char)
  | 0, text => [text]
  | cuts + 1, text =>
    match cut? separator text with
    | none => [text]
    | some (before, after) => before :: splitAtMost separator cuts after

def split (separator text : List Char) : List (List Char) :=
  splitAtMost separator text.length text

def join (separator : List Char) : List (List Char) → List Char
  | [] => []
  | [piece] => piece
  | piece :: rest => piece ++ separator ++ join separator rest

def trimStart (text : List Char) : List Char := text.dropWhile CharClass.isBlank

def trimEnd (text : List Char) : List Char := (text.reverse.dropWhile CharClass.isBlank).reverse

def trim (text : List Char) : List Char := trimEnd (trimStart text)

def dropLast? (last : Char) (text : List Char) : Option (List Char) :=
  match text.reverse with
  | [] => none
  | c :: rest => if c = last then some rest.reverse else none

end TreePath.Pieces
