import TreePath.Number.FloatText
namespace TreePath

inductive Profile where
  | core
  | extended
deriving DecidableEq

def Profile.isExtended : Profile → Bool
  | core => false
  | extended => true

structure Position where
  line : Nat
  column : Nat
deriving DecidableEq

namespace Position

def start : Position := ⟨1, 1⟩

def advance (p : Position) (c : Char) : Position :=
  if c = '\n' then ⟨p.line + 1, 1⟩ else ⟨p.line, p.column + 1⟩

def after (p : Position) (text : List Char) : Position := text.foldl advance p

def text (p : Position) : String := "line " ++ p.line.repr ++ ", column " ++ p.column.repr

end Position

inductive Token where
  | number (n : Int64)
  | real (x : Float)
  | boolean (b : Bool)
  | identifier (name : String)
  | namedOperator (text : String)
  | whereSome
  | whereNone
  | dollar
  | dot
  | doubleDot
  | star
  | comma
  | colon
  | pipe
  | ampersand
  | leftBracket
  | rightBracket
  | leftParen
  | rightParen
  | question
  | plus
  | slash
  | backslash
  | equal
  | doubleEqual
  | notEqual
  | less
  | lessEqual
  | greater
  | greaterEqual
  | matching
deriving DecidableEq

namespace Token

def booleanText (b : Bool) : String := if b then "true" else "false"

def description : Token → String
  | number n => "number " ++ Integer.text n
  | real x => "number " ++ FloatText.plain x
  | boolean b => "'" ++ booleanText b ++ "'"
  | identifier name => "identifier '" ++ name ++ "'"
  | namedOperator text => "named operator `" ++ text ++ "`"
  | whereSome => "'where'"
  | whereNone => "'wherenot'"
  | dollar => "'$'"
  | dot => "'.'"
  | doubleDot => "'..'"
  | star => "'*'"
  | comma => "','"
  | colon => "':'"
  | pipe => "'|'"
  | ampersand => "'&'"
  | leftBracket => "'['"
  | rightBracket => "']'"
  | leftParen => "'('"
  | rightParen => "')'"
  | question => "'?'"
  | plus => "'+'"
  | slash => "'/'"
  | backslash => "'\\'"
  | equal => "'='"
  | doubleEqual => "'=='"
  | notEqual => "'!='"
  | less => "'<'"
  | lessEqual => "'<='"
  | greater => "'>'"
  | greaterEqual => "'>='"
  | matching => "'=~'"

def fieldName? : Token → Option String
  | identifier name => some name
  | boolean b => some (booleanText b)
  | _ => none

end Token

structure Lexeme where
  token : Token
  position : Position
  text : List Char
deriving DecidableEq

inductive LexFault where
  | unexpectedCharacter (c : Char)
  | unterminatedQuote (quote : Char)
  | invalidNumber (text : List Char)
deriving DecidableEq

structure LexError where
  fault : LexFault
  position : Position
deriving DecidableEq

def quotedThing (quote : Char) : String :=
  if quote = '`' then "named operator"
  else if quote = '\'' then "single-quoted string"
  else "double-quoted string"

def LexError.message (e : LexError) : String :=
  match e.fault with
  | .unexpectedCharacter c =>
    "Unexpected character '" ++ String.singleton c ++ "' at " ++ e.position.text
  | .unterminatedQuote quote =>
    "Unterminated " ++ quotedThing quote ++ " starting at " ++ e.position.text
  | .invalidNumber text =>
    "Invalid number '" ++ String.ofList text ++ "' at " ++ e.position.text

end TreePath
