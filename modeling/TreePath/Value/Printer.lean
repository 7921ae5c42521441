import TreePath.Number.FloatText
import TreePath.Value.Basic
namespace TreePath
namespace Value

def hexDigit (n : Nat) : Char := Nat.digitChar (n % 16)

def escapeChar (c : Char) : List Char :=
  if c = '"' then ['\\', '"']
  else if c = '\\' then ['\\', '\\']
  else if c = '\n' then ['\\', 'n']
  else if c = '\r' then ['\\', 'r']
  else if c = '\t' then ['\\', 't']
  else if CharClass.isControl c then
    let n := c.toNat
    ['\\', 'u', hexDigit (n / 4096), hexDigit (n / 256), hexDigit (n / 16), hexDigit n]
  else [c]

def quote (s : String) : String :=
  String.ofList ('"' :: (s.toList.flatMap escapeChar ++ ['"']))

def scalarText : Value → String
  | null => "null"
  | boolean b => if b then "true" else "false"
  | float x => FloatText.json x
  | integer n => Integer.text n
  | string s => quote s
  | array _ => "[]"
  | object _ => "\x7b\x7d"

mutual
def json : Value → String
  | array [] => "[]"
  | array (item :: rest) => "[" ++ json item ++ jsonItems rest ++ "]"
  | object [] => "\x7b\x7d"
  | object ((name, value) :: rest) =>
    "\x7b" ++ quote name ++ ":" ++ json value ++ jsonMembers rest ++ "\x7d"
  | scalar => scalar.scalarText

def jsonItems : List Value → String
  | [] => ""
  | item :: rest => "," ++ json item ++ jsonItems rest

def jsonMembers : List (String × Value) → String
  | [] => ""
  | (name, value) :: rest => "," ++ quote name ++ ":" ++ json value ++ jsonMembers rest
end

def newLine (level : Nat) : String := String.ofList ('\n' :: List.replicate (2 * level) ' ')

mutual
def indented (level : Nat) : Value → String
  | array [] => "[]"
  | array (item :: rest) =>
    "[" ++ newLine (level + 1) ++ indented (level + 1) item ++ indentedItems level rest ++
      newLine level ++ "]"
  | object [] => "\x7b\x7d"
  | object ((name, value) :: rest) =>
    "\x7b" ++ newLine (level + 1) ++ quote name ++ ": " ++ indented (level + 1) value ++
      indentedMembers level rest ++ newLine level ++ "\x7d"
  | scalar => scalar.scalarText

def indentedItems (level : Nat) : List Value → String
  | [] => ""
  | item :: rest =>
    "," ++ newLine (level + 1) ++ indented (level + 1) item ++ indentedItems level rest

def indentedMembers (level : Nat) : List (String × Value) → String
  | [] => ""
  | (name, value) :: rest =>
    "," ++ newLine (level + 1) ++ quote name ++ ": " ++ indented (level + 1) value ++
      indentedMembers level rest
end

def pretty (v : Value) : String := indented 0 v

def display : Value → String
  | string s => s
  | other => other.json

end Value
end TreePath
