import TreePath.Path.OperatorReader
import TreePath.Token.Lexer
namespace TreePath

inductive Expectation where
  | path
  | endOfExpression
  | closingParen
  | closingBracket
  | bracketBody
  | indexOrColon
  | literal
  | sortMark
deriving DecidableEq

def Expectation.text : Expectation → String
  | path => "a path"
  | endOfExpression => "end of expression"
  | closingParen => "')'"
  | closingBracket => "']'"
  | bracketBody => "an index, slice, field name, filter, or sort"
  | indexOrColon => "an index or ':'"
  | literal => "a literal"
  | sortMark => "'/' or '\\' before a sort key"

def maxNesting : Nat := 128

inductive Invalid where
  | tooDeep
  | loneNumber
  | zeroStep
  | unquotedPattern
  | badPattern (source : String) (fault : Regex.Fault)
  | badOperator (fault : OperatorFault)
deriving DecidableEq

def Invalid.message : Invalid → String
  | tooDeep => "expression nests deeper than " ++ maxNesting.repr ++ " levels"
  | loneNumber => "a number must be combined with an arithmetic operator"
  | zeroStep => "slice step cannot be zero"
  | unquotedPattern => "=~ expects a quoted regular expression"
  | badPattern source fault =>
    "invalid regular expression '" ++ source ++ "': " ++ fault.message
  | badOperator fault => fault.message

inductive SyntaxError where
  | lexical (error : LexError)
  | unexpectedToken (found : Token) (expected : Expectation) (position : Position)
  | unexpectedEnd (expected : Expectation) (position : Position)
  | unknownOperator (name : String) (position : Position)
  | invalid (reason : Invalid) (position : Position)
deriving DecidableEq

namespace SyntaxError

def position : SyntaxError → Position
  | lexical error => error.position
  | unexpectedToken _ _ position => position
  | unexpectedEnd _ position => position
  | unknownOperator _ position => position
  | invalid _ position => position

def message : SyntaxError → String
  | lexical error => error.message
  | unexpectedToken found expected position =>
    "Parse error at " ++ position.text ++ ": expected " ++ expected.text ++ ", found " ++
      found.description
  | unexpectedEnd expected position =>
    "Parse error at " ++ position.text ++ ": expression ended, expected " ++ expected.text
  | unknownOperator name position =>
    "Parse error at " ++ position.text ++ ": unknown named operator `" ++ name ++ "`"
  | invalid reason position => "Parse error at " ++ position.text ++ ": " ++ reason.message

end SyntaxError
end TreePath
