import TreePath.Path.Fault
namespace TreePath.Grammar

structure Setting where
  profile : Profile
  stop : Stop

abbrev Reader (α : Type) := List Lexeme → Except SyntaxError (α × List Lexeme)

namespace Setting

def position (s : Setting) : List Lexeme → Position
  | lexeme :: _ => lexeme.position
  | [] =>
    match s.stop with
    | .endOfText position => position
    | .fault error => error.position

-- Tokens are asked for one at a time: where there is none, a lexical fault comes to light.
def demand (s : Setting) (tokens : List Lexeme) : Except SyntaxError Unit :=
  match tokens, s.stop with
  | [], .fault error => .error (.lexical error)
  | _, _ => .ok ()

def next (s : Setting) (tokens : List Lexeme) : Except SyntaxError (List Lexeme) := do
  s.demand tokens.tail
  return tokens.tail

def unexpected {α : Type} (s : Setting) (expected : Expectation) (tokens : List Lexeme) :
    Except SyntaxError α :=
  match tokens with
  | [] => .error (.unexpectedEnd expected (s.position []))
  | lexeme :: _ => .error (.unexpectedToken lexeme.token expected lexeme.position)

def expect (s : Setting) (token : Token) (expected : Expectation) (tokens : List Lexeme) :
    Except SyntaxError (List Lexeme) :=
  match tokens with
  | lexeme :: _ => if lexeme.token = token then s.next tokens else s.unexpected expected tokens
  | [] => s.unexpected expected tokens

def isExtended (s : Setting) : Bool := s.profile.isExtended

end Setting

def head? (tokens : List Lexeme) : Option Token := tokens.head?.map Lexeme.token

-- Brackets of all kinds and right operands of arithmetic open a new level. The grammar for so many levels is made
-- from the one for one level less, so the recursion is on the number of levels left.
structure Level where
  arithmetic : Reader Operand
  expression : Reader Path
  bracketBody : Reader Path
  conditions : Reader (List Condition)

-- A comma goes on with the list only if a name follows.
def moreNames (s : Setting) : Reader (List String)
  | comma :: lexeme :: rest =>
    if comma.token = .comma then
      match lexeme.token.fieldName? with
      | some name => do
        s.demand rest
        let (names, rest) ← moreNames s rest
        return (name :: names, rest)
      | none => .ok ([], comma :: lexeme :: rest)
    else .ok ([], comma :: lexeme :: rest)
  | [comma] =>
    if comma.token = .comma then do
      s.demand []
      return ([], [comma])
    else .ok ([], [comma])
  | [] => .ok ([], [])

def fieldList (s : Setting) (first : String) : Reader Path := fun tokens => do
  let (names, rest) ← moreNames s tokens
  return (.fields (first :: names), rest)

def number? (s : Setting) (tokens : List Lexeme) :
    Except SyntaxError (Option Int64 × List Lexeme) :=
  match head? tokens with
  | some (.number n) => do
    let rest ← s.next tokens
    return (some n, rest)
  | _ => .ok (none, tokens)

def operatorPath (s : Setting) (text : String) (position : Position) : Except SyntaxError Path :=
  if text = "this" then .ok .this
  else if text = "parent" then .ok .parent
  else if !s.isExtended then .error (.unknownOperator text position)
  else
    match NamedOperator.read? text with
    | some (.ok operator) => .ok (.named operator)
    | some (.error fault) => .error (.invalid (.badOperator fault) position)
    | none => .error (.unknownOperator text position)

inductive Infix where
  | descendants | child | union | whereSome | whereNone

namespace Infix

def ofToken? : Token → Option Infix
  | .doubleDot => some descendants
  | .dot => some child
  | .pipe => some union
  | .whereSome => some whereSome
  | .whereNone => some whereNone
  | _ => none

def tightness : Infix → Nat
  | descendants => 3
  | child => 4
  | union => 5
  | whereSome => 6
  | whereNone => 6

def combine : Infix → Path → Path → Path
  | descendants, left, right => .descendants left right
  | child, left, right => .child left right
  | whereSome, left, right => .whereSome left right
  | whereNone, left, right => .whereNone left right
  | union, .union alternatives, right => .union (alternatives ++ [right])
  | union, left, right => .union [left, right]

end Infix

def bracketTightness : Nat := 2

def atom (s : Setting) (below : Level) : Reader Path := fun tokens =>
  match tokens with
  | [] => s.unexpected .path tokens
  | lexeme :: _ =>
    match lexeme.token.fieldName? with
    | some name => do
      let rest ← s.next tokens
      if name = "@" ∧ s.isExtended then return (.this, rest) else fieldList s name rest
    | none =>
      match lexeme.token with
      | .star => do return (.wildcard, ← s.next tokens)
      | .dollar => do return (.root, ← s.next tokens)
      | .namedOperator text => do
        let rest ← s.next tokens
        return (← operatorPath s text lexeme.position, rest)
      | .leftBracket => do below.bracketBody (← s.next tokens)
      | .leftParen => do
        let (inner, rest) ← below.expression (← s.next tokens)
        return (inner, ← s.expect .rightParen .closingParen rest)
      | _ => s.unexpected .path tokens

-- Every turn goes past a token.
def pathTail (s : Setting) (below : Level) (operand : Nat → Reader Path) (least : Nat) :
    Nat → Path → Reader Path
  | 0, left, tokens => .ok (left, tokens)
  | turns + 1, left, tokens =>
    match head? tokens with
    | some .leftBracket =>
      if bracketTightness < least then .ok (left, tokens)
      else do
        let (segment, rest) ← below.bracketBody (← s.next tokens)
        pathTail s below operand least turns (.child left segment) rest
    | some token =>
      match Infix.ofToken? token with
      | none => .ok (left, tokens)
      | some operator =>
        if operator.tightness < least then .ok (left, tokens)
        else do
          let (right, rest) ← operand (operator.tightness + 1) (← s.next tokens)
          pathTail s below operand least turns (operator.combine left right) rest
    | none => .ok (left, tokens)

-- A right operand is bound tighter than its operator, so after as many steps as there are tiers nothing binds tightly
-- enough.
def pathWithin (s : Setting) (below : Level) : Nat → Nat → Reader Path
  | 0, _, tokens => atom s below tokens
  | tiers + 1, least, tokens => do
    let (left, rest) ← atom s below tokens
    pathTail s below (pathWithin s below tiers) least rest.length left rest

def tiers : Nat := 4

def path (s : Setting) (below : Level) : Reader Path := pathWithin s below tiers 0

def arithmeticOperator? (s : Setting) (tokens : List Lexeme) : Option ArithmeticOperator :=
  if s.isExtended then
    match head? tokens with
    | some .plus => some .add
    | some .star => some .multiply
    | some .slash => some .divide
    | _ => none
  else none

def operand (s : Setting) (below : Level) : Reader Operand := fun tokens =>
  let ofPath : Except SyntaxError (Operand × List Lexeme) := do
    let (p, rest) ← path s below tokens
    return (.path p, rest)
  match head? tokens with
  | some (.number n) =>
    if s.isExtended then do return (.literal (.integer n), ← s.next tokens) else ofPath
  | some (.real x) => do return (.literal (.float x), ← s.next tokens)
  | _ => ofPath

def arithmetic (s : Setting) (below : Level) : Reader Operand := fun tokens => do
  let (left, rest) ← operand s below tokens
  match arithmeticOperator? s rest with
  | none => return (left, rest)
  | some operator =>
    let (right, rest) ← below.arithmetic (← s.next rest)
    return (.path (.arithmetic operator left.literalized right.literalized), rest)

def expression (s : Setting) (below : Level) : Reader Path := fun tokens => do
  match ← arithmetic s below tokens with
  | (.path p, rest) => return (p, rest)
  | (.literal _, _) => .error (.invalid .loneNumber (s.position tokens))

def compareOperator? : Token → Option CompareOperator
  | .equal => some .equal
  | .doubleEqual => some .equal
  | .notEqual => some .notEqual
  | .less => some .less
  | .lessEqual => some .lessEqual
  | .greater => some .greater
  | .greaterEqual => some .greaterEqual
  | .matching => some .matching
  | _ => none

def plainLiteral? : Token → Option Literal
  | .identifier name => some (.string name)
  | .number n => some (.integer n)
  | .real x => some (.real x)
  | .boolean b => some (.boolean b)
  | _ => none

def literalFor (operator : CompareOperator) (literal : Literal) (position : Position) :
    Except SyntaxError Literal :=
  match operator, literal with
  | .matching, .string source =>
    match Pattern.ofSource source with
    | .ok pattern => .ok (.pattern pattern)
    | .error fault => .error (.invalid (.badPattern source fault) position)
  | .matching, _ => .error (.invalid .unquotedPattern position)
  | _, literal => .ok literal

def literal (s : Setting) (operator : CompareOperator) : Reader Literal := fun tokens =>
  match (head? tokens).bind plainLiteral? with
  | none => s.unexpected .literal tokens
  | some literal => do
    let rest ← s.next tokens
    return (← literalFor operator literal (s.position tokens), rest)

def condition (s : Setting) (below : Level) : Reader Condition := fun tokens => do
  let (target, rest) ← expression s below tokens
  match (head? rest).bind compareOperator? with
  | none => return (.present target, rest)
  | some operator =>
    let (literal, rest) ← literal s operator (← s.next rest)
    return (.compare target operator literal, rest)

def conditionGroup (s : Setting) (below : Level) : Reader (List Condition) := fun tokens =>
  match head? tokens with
  | some .leftParen => do
    let (conditions, rest) ← below.conditions (← s.next tokens)
    return (conditions, ← s.expect .rightParen .closingParen rest)
  | _ => do
    let (condition, rest) ← condition s below tokens
    return ([condition], rest)

def moreConditions (s : Setting) (below : Level) :
    Nat → List Condition → Reader (List Condition)
  | 0, before, tokens => .ok (before, tokens)
  | turns + 1, before, tokens =>
    match head? tokens with
    | some .ampersand => do
      let (group, rest) ← conditionGroup s below (← s.next tokens)
      moreConditions s below turns (before ++ group) rest
    | _ => .ok (before, tokens)

def conditions (s : Setting) (below : Level) : Reader (List Condition) := fun tokens => do
  let (first, rest) ← conditionGroup s below tokens
  moreConditions s below rest.length first rest

def direction? (tokens : List Lexeme) : Option Direction :=
  match head? tokens with
  | some .slash => some .ascending
  | some .backslash => some .descending
  | _ => none

-- A comma between two keys may be left out. Every turn goes past a mark.
def sortKeys (s : Setting) (below : Level) : Nat → Reader (List SortKey)
  | 0, tokens => s.unexpected .sortMark tokens
  | turns + 1, tokens =>
    match direction? tokens with
    | none => s.unexpected .sortMark tokens
    | some direction => do
      let (p, rest) ← path s below (← s.next tokens)
      let key := SortKey.mk direction p
      if head? rest = some .comma then
        let (keys, rest) ← sortKeys s below turns (← s.next rest)
        return (key :: keys, rest)
      else if (direction? rest).isSome then
        let (keys, rest) ← sortKeys s below turns rest
        return (key :: keys, rest)
      else return ([key], rest)

def indexOrSlice (s : Setting) : Reader Path := fun tokens => do
  let (start, rest) ← number? s tokens
  if head? rest ≠ some .colon then
    match start with
    | some i => return (.index i, rest)
    | none => s.unexpected .indexOrColon rest
  else
    let (stop, rest) ← number? s (← s.next rest)
    let (step, rest) ←
      if head? rest = some .colon then number? s (← s.next rest) else .ok (none, rest)
    if step = some 0 then .error (.invalid .zeroStep (s.position tokens))
    else return (.slice start stop step, rest)

def bracketContent (s : Setting) (below : Level) : Reader Path := fun tokens =>
  match head? tokens with
  | some .star => do return (.fullSlice, ← s.next tokens)
  | some .question => do
    let (conditions, rest) ← conditions s below (← s.next tokens)
    return (.filter conditions, rest)
  | some .slash | some .backslash => do
    let (keys, rest) ← sortKeys s below tokens.length tokens
    return (.sort keys, rest)
  | some (.number _) | some .colon => indexOrSlice s tokens
  | some token =>
    match token.fieldName? with
    | some name => do fieldList s name (← s.next tokens)
    | none => s.unexpected .bracketBody tokens
  | none => s.unexpected .bracketBody tokens

def bracketBody (s : Setting) (below : Level) : Reader Path := fun tokens => do
  let (content, rest) ← bracketContent s below tokens
  return (content, ← s.expect .rightBracket .closingBracket rest)

def level (s : Setting) : Nat → Level
  | 0 =>
    { arithmetic := fun tokens => .error (.invalid .tooDeep (s.position tokens))
      expression := fun tokens => .error (.invalid .tooDeep (s.position tokens))
      bracketBody := fun tokens => .error (.invalid .tooDeep (s.position tokens))
      conditions := fun tokens => .error (.invalid .tooDeep (s.position tokens)) }
  | depth + 1 =>
    let below := level s depth
    { arithmetic := arithmetic s below
      expression := expression s below
      bracketBody := bracketBody s below
      conditions := conditions s below }

def whole (s : Setting) (tokens : List Lexeme) : Except SyntaxError Path := do
  s.demand tokens
  let (p, rest) ← expression s (level s maxNesting) tokens
  if rest = [] then return p else s.unexpected .endOfExpression rest

end Grammar

def Path.ofText (profile : Profile) (text : String) : Except SyntaxError Path :=
  let stream := TokenStream.ofText profile text
  Grammar.whole ⟨profile, stream.stop⟩ stream.lexemes

end TreePath
