import TreePath.Path.Basic
import TreePath.Value.Printer
namespace TreePath

def reservedMarks : List Char := "*.[]()$,:|&~?'\"`\\/=<>!+#".toList

def needsQuotes (name : String) : Bool :=
  name == "" || name == "where" || name == "wherenot" ||
    name.toList.any (fun c => CharClass.isBlank c || reservedMarks.contains c)

def escapeQuoted (c : Char) : List Char := if c = '\'' ∨ c = '\\' then ['\\', c] else [c]

def fieldText (name : String) : String :=
  if needsQuotes name then String.ofList ('\'' :: (name.toList.flatMap escapeQuoted ++ ['\'']))
  else name

def commaSeparated : List String → String
  | [] => ""
  | [s] => s
  | s :: rest => s ++ "," ++ commaSeparated rest

def boundText (bound : Option Int64) : String :=
  match bound with
  | some n => Integer.text n
  | none => ""

def sliceText (start stop step : Option Int64) : String :=
  match start, stop, step with
  | none, none, none => "[*]"
  | start, stop, none => "[" ++ boundText start ++ ":" ++ boundText stop ++ "]"
  | start, stop, some step =>
    "[" ++ boundText start ++ ":" ++ boundText stop ++ ":" ++ Integer.text step ++ "]"

def Literal.text : Literal → String
  | string s => Value.quote s
  | integer n => Integer.text n
  | real x => FloatText.literal x
  | boolean b => if b then "true" else "false"
  | pattern p => Value.quote p.source

def Selector.text : Selector → String
  | piece i => Integer.text i
  | range start stop => boundText start ++ ":" ++ boundText stop

def NamedOperator.text : NamedOperator → String
  | len => "len"
  | keys => "keys"
  | sorted => "sorted"
  | str => "str()"
  | sub pattern template => "sub(/" ++ pattern.source ++ "/, " ++ template ++ ")"
  | split separator selector limit =>
    "split(" ++ separator ++ ", " ++ selector.text ++ ", " ++ Integer.text limit ++ ")"

def Path.tightness : Path → Nat
  | .arithmetic _ _ _ => 1
  | .descendants _ _ => 3
  | .child _ _ => 4
  | .union _ => 5
  | .whereSome _ _ => 6
  | .whereNone _ _ => 6
  | _ => 9

-- Round brackets stand only where a looser operator is an operand of a tighter one.
def bracketed (tightness least : Nat) (text : String) : String :=
  if tightness < least then "(" ++ text ++ ")" else text

mutual
def Path.text : Path → String
  | .root => "$"
  | .this => "`this`"
  | .parent => "`parent`"
  | .wildcard => "*"
  | .fields names => commaSeparated (names.map fieldText)
  | .index i => "[" ++ Integer.text i ++ "]"
  | .slice start stop step => sliceText start stop step
  | .child left right =>
    bracketed left.tightness 4 left.text ++ "." ++ bracketed right.tightness 5 right.text
  | .descendants left right =>
    bracketed left.tightness 3 left.text ++ ".." ++ bracketed right.tightness 4 right.text
  | .whereSome left right =>
    bracketed left.tightness 6 left.text ++ " where " ++ bracketed right.tightness 7 right.text
  | .whereNone left right =>
    bracketed left.tightness 6 left.text ++ " wherenot " ++ bracketed right.tightness 7 right.text
  | .union alternatives => unionText alternatives
  | .filter conditions => "[?" ++ conditionsText conditions ++ "]"
  | .sort keys => "[" ++ keysText keys ++ "]"
  | .arithmetic operator left right =>
    left.text 2 ++ " " ++ operator.symbol ++ " " ++ right.text 1
  | .named operator => "`" ++ operator.text ++ "`"

def unionText : List Path → String
  | [] => ""
  | [p] => bracketed p.tightness 6 p.text
  | p :: rest => bracketed p.tightness 6 p.text ++ "|" ++ unionText rest

def Condition.text : Condition → String
  | .present target => target.text
  | .compare target operator literal =>
    target.text ++ " " ++ operator.symbol ++ " " ++ literal.text

def conditionsText : List Condition → String
  | [] => ""
  | [c] => c.text
  | c :: rest => c.text ++ " & " ++ conditionsText rest

def SortKey.text : SortKey → String
  | .mk direction path => direction.symbol ++ bracketed path.tightness 2 path.text

def keysText : List SortKey → String
  | [] => ""
  | [k] => k.text
  | k :: rest => k.text ++ "," ++ keysText rest

def Operand.text (least : Nat) : Operand → String
  | .literal value => value.json
  | .path path => bracketed path.tightness least path.text
end

end TreePath
