import TreePath.Path.Basic
namespace TreePath

inductive OperatorFault where
  | strArguments
  | subFirst (arguments : List Char)
  | subShape
  | subPattern (source : List Char) (fault : Regex.Fault)
  | splitShape (arguments : List Char)
  | splitSeparator
  | splitLimit (text : List Char)
  | splitIndex (text : List Char)
  | splitNoIndex
deriving DecidableEq

def OperatorFault.message : OperatorFault → String
  | strArguments => "str() takes no arguments"
  | subFirst arguments =>
    "sub() expects /regex/ as its first argument, got '" ++ String.ofList arguments ++ "'"
  | subShape => "sub() expects '/regex/, replacement'"
  | subPattern source fault =>
    "invalid regex '" ++ String.ofList source ++ "' in sub(): " ++ fault.message
  | splitShape arguments =>
    "split() expects 'separator, index, maxsplit', got '" ++ String.ofList arguments ++ "'"
  | splitSeparator => "split() separator cannot be empty"
  | splitLimit text => "split() maxsplit must be an integer, got '" ++ String.ofList text ++ "'"
  | splitIndex text =>
    "split() index must be an integer or range, got '" ++ String.ofList text ++ "'"
  | splitNoIndex => "split() index cannot be empty"

namespace NamedOperator

def braced (name : List Char) : List Char := '$' :: '\x7b' :: (name ++ ['\x7d'])

-- References that start with a backslash are rewritten for templates, and dollar signs are doubled so that they are
-- none. Every turn reads at least one character.
def templateIn : Nat → List Char → List Char
  | 0, _ => []
  | _ + 1, [] => []
  | turns + 1, c :: rest =>
    if c = '$' then '$' :: '$' :: templateIn turns rest
    else if c ≠ '\\' then c :: templateIn turns rest
    else
      match rest with
      | [] => ['\\']
      | 'g' :: '<' :: rest =>
        braced (rest.takeWhile (· ≠ '>')) ++ templateIn turns ((rest.dropWhile (· ≠ '>')).drop 1)
      | 'g' :: rest => '\\' :: 'g' :: templateIn turns rest
      | 'n' :: rest => '\n' :: templateIn turns rest
      | 't' :: rest => '\t' :: templateIn turns rest
      | d :: others =>
        if CharClass.isDigit d then
          braced (rest.takeWhile CharClass.isDigit) ++
            templateIn turns (rest.dropWhile CharClass.isDigit)
        else d :: templateIn turns others

def templateOf (replacement : List Char) : List Char := templateIn replacement.length replacement

-- The pattern ends at the last slash that a comma follows.
def readSub (arguments : List Char) : Except OperatorFault NamedOperator :=
  match arguments with
  | '/' :: body =>
    match Pieces.cutLast? ['/', ','] body with
    | none => .error .subShape
    | some (source, replacement) =>
      match Pattern.ofSource (String.ofList source) with
      | .error fault => .error (.subPattern source fault)
      | .ok pattern =>
        .ok (sub pattern (String.ofList (templateOf (Pieces.trimStart replacement))))
  | _ => .error (.subFirst arguments)

def readBound (whole bound : List Char) : Except OperatorFault (Option Int64) :=
  if bound = [] then .ok none
  else
    match Integer.read? bound with
    | some n => .ok (some n)
    | none => .error (.splitIndex whole)

def readSelector (text : List Char) : Except OperatorFault Selector :=
  match Pieces.cut? [':'] text with
  | some (start, stop) => do
    let start ← readBound text (Pieces.trim start)
    let stop ← readBound text (Pieces.trim stop)
    return .range start stop
  | none => do
    match ← readBound text text with
    | some i => return .piece i
    | none => .error .splitNoIndex

-- The separator may hold commas, so the last two commas count.
def readSplit (arguments : List Char) : Except OperatorFault NamedOperator :=
  match Pieces.cutLast? [','] arguments with
  | none => .error (.splitShape arguments)
  | some (front, limit) =>
    match Pieces.cutLast? [','] front with
    | none => .error (.splitShape arguments)
    | some (separator, selector) =>
      if separator = [] then .error .splitSeparator
      else
        match Integer.read? (Pieces.trim limit) with
        | none => .error (.splitLimit (Pieces.trim limit))
        | some limit => do
          let selector ← readSelector (Pieces.trim selector)
          return split (String.ofList separator) selector limit

def read? (text : String) : Option (Except OperatorFault NamedOperator) :=
  if text = "len" then some (.ok len)
  else if text = "keys" then some (.ok keys)
  else if text = "sorted" then some (.ok sorted)
  else if text = "str()" then some (.ok str)
  else
    (Pieces.dropLast? ')' text.toList).bind fun front =>
      (Pieces.cut? ['('] front).bind fun (name, arguments) =>
        let name := String.ofList name
        if name = "sub" then some (readSub arguments)
        else if name = "split" then some (readSplit arguments)
        else if name = "str" then some (.error .strArguments)
        else none

end NamedOperator
end TreePath
