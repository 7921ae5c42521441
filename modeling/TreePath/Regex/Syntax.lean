import TreePath.Text.CodeRanges
namespace TreePath.Regex

inductive Boundary where
  | edge | noEdge | start | finish | startHalf | finishHalf
deriving DecidableEq

inductive Look where
  | textStart
  | textEnd
  | lineStart (carriageReturns : Bool)
  | lineEnd (carriageReturns : Bool)
  | word (wide : Bool) (boundary : Boundary)
deriving DecidableEq

-- Of alternatives the first is preferred. Sequences and alternatives are kept simple: neighbouring literals are one
-- literal, alternatives of single characters one set, and what all alternatives begin with stands before them.
inductive Node where
  | empty
  | literal (codes : List Nat)
  | set (chars : CodeRanges)
  | look (condition : Look)
  | group (index : Nat) (body : Node)
  | seq (first rest : Node)
  | alt (first rest : Node)
  | loop (body : Node) (least : Nat) (most : Option Nat) (greedy : Bool)
deriving DecidableEq

namespace Node

def ofSet (chars : CodeRanges) : Node :=
  match chars.ranges.toList with
  | [(first, last)] => if first = last then literal [first] else set chars
  | _ => set chars

def parts : Node → List Node
  | empty => []
  | seq first rest => first :: parts rest
  | node => [node]

def options : Node → List Node
  | alt first rest => first :: options rest
  | node => [node]

def prepend (node : Node) (rest : List Node) : List Node :=
  match node, rest with
  | literal a, literal b :: others => literal (a ++ b) :: others
  | node, rest => node :: rest

def chain (join : Node → Node → Node) : List Node → Node
  | [] => empty
  | [node] => node
  | node :: rest => join node (chain join rest)

def ofList (nodes : List Node) : Node :=
  chain seq ((nodes.flatMap parts).foldr prepend [])

def single? : Node → Option Nat
  | literal [c] => some c
  | _ => none

def set? : Node → Option CodeRanges
  | set chars => some chars
  | _ => none

def merged? (options : List Node) : Option CodeRanges :=
  match options.mapM single?, options.mapM set? with
  | some codes, _ => some (CodeRanges.ofList (codes.map fun c => (c, c)))
  | none, some sets => some (CodeRanges.ofList (sets.flatMap fun s => s.ranges.toList))
  | none, none => none

def common : List Node → List Node → Nat
  | a :: as, b :: bs => if a = b then common as bs + 1 else 0
  | _, _ => 0

def commonParts : List Node → Nat
  | [] => 0
  | first :: others =>
    let isSeq (node : Node) : Bool :=
      match node with
      | seq _ _ => true
      | _ => false
    if (first :: others).all isSeq then
      others.foldl (fun n node => Nat.min n (common first.parts node.parts)) first.parts.length
    else 0

def ofOptions (nodes : List Node) : Node :=
  let options := nodes.flatMap options
  match options, merged? options with
  | _ :: _ :: _, some chars => ofSet chars
  | _, _ => chain alt options

def ofAlternatives (nodes : List Node) : Node :=
  match nodes.flatMap options with
  | first :: second :: others =>
    let all := first :: second :: others
    match commonParts all with
    | 0 => ofOptions all
    | n + 1 =>
      ofList (first.parts.take (n + 1) ++
        [ofOptions (all.map fun node => ofList (node.parts.drop (n + 1)))])
  | all => chain alt all

def isWidthless : Node → Bool
  | empty | look _ => true
  | literal codes => codes.isEmpty
  | set _ => false
  | group _ body => body.isWidthless
  | seq first second | alt first second => first.isWidthless && second.isWidthless
  | loop body _ most _ => body.isWidthless || most == some 0

def canBeEmpty : Node → Bool
  | empty | look _ => true
  | literal codes => codes.isEmpty
  | set chars => chars.isEmpty
  | group _ body => body.canBeEmpty
  | seq first second => first.canBeEmpty && second.canBeEmpty
  | alt first second => first.canBeEmpty || second.canBeEmpty
  | loop body least _ _ => least == 0 || body.canBeEmpty

-- More than one turn of what has no width is as good as one.
def repeated (body : Node) (least : Nat) (most : Option Nat) (greedy : Bool) : Node :=
  let least := if body.isWidthless then Nat.min least 1 else least
  let most := if body.isWidthless then some (Nat.min (most.getD 1) 1) else most
  if most = some 0 then empty
  else if least = 1 ∧ most = some 1 then body
  else loop body least most greedy

end Node

inductive Fault where
  | malformed
  | tooLarge
deriving DecidableEq

def sizeLimit : Nat := 10485760

def Fault.message : Fault → String
  | malformed => "regex parse error:"
  | tooLarge => "Compiled regex exceeds size limit of " ++ sizeLimit.repr ++ " bytes."

end TreePath.Regex
