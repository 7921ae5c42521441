import TreePath.Token.Basic
namespace TreePath
namespace Token

def isNameStart (c : Char) : Bool := CharClass.isLetter c || c == '_' || c == '@'

def isNamePart (c : Char) : Bool := CharClass.isLetterOrNumber c || c == '_' || c == '@' || c == '-'

structure Scanned where
  token : Token
  text : List Char
  rest : List Char

-- The truth values are names in the core grammar.
def ofWord (profile : Profile) (word : List Char) : Token :=
  let word := String.ofList word
  if word = "where" then whereSome
  else if word = "wherenot" then whereNone
  else if profile.isExtended && word == "true" then boolean true
  else if profile.isExtended && word == "false" then boolean false
  else identifier word

-- A backslash makes the next character mean itself.
def scanQuoted (quote : Char) : List Char → Option (List Char × List Char × List Char)
  | [] => none
  | c :: rest =>
    if c = quote then some ([], [c], rest)
    else if c = '\\' then
      match rest with
      | [] => none
      | d :: rest =>
        (scanQuoted quote rest).map fun (said, text, rest) => (d :: said, c :: d :: text, rest)
    else (scanQuoted quote rest).map fun (said, text, rest) => (c :: said, c :: text, rest)

def scanFraction (profile : Profile) (text : List Char) : Option (List Char × List Char) :=
  match text with
  | '.' :: rest =>
    if profile.isExtended && (rest.takeWhile CharClass.isDigit ≠ []) then
      some (rest.takeWhile CharClass.isDigit, rest.dropWhile CharClass.isDigit)
    else none
  | _ => none

def realOf (negative : Bool) (whole fraction : List Char) : Float :=
  let magnitude := Float.ofScientific (Integer.ofDigits (whole ++ fraction)) true fraction.length
  if negative then -magnitude else magnitude

def scanNumber (profile : Profile) (negative : Bool) (text : List Char) :
    Except LexFault Scanned :=
  let sign := if negative then ['-'] else []
  let whole := text.takeWhile CharClass.isDigit
  let rest := text.dropWhile CharClass.isDigit
  match scanFraction profile rest with
  | some (fraction, rest) =>
    .ok ⟨real (realOf negative whole fraction), sign ++ whole ++ '.' :: fraction, rest⟩
  | none =>
    let value : Int := Integer.ofDigits whole
    match Integer.ofInt? (if negative then -value else value) with
    | some n => .ok ⟨number n, sign ++ whole, rest⟩
    | none => .error (.invalidNumber (sign ++ whole))

def scanOperator (c : Char) (rest : List Char) : Except LexFault Scanned :=
  match c, rest with
  | '?', _ => .ok ⟨question, [c], rest⟩
  | '+', _ => .ok ⟨plus, [c], rest⟩
  | '/', _ => .ok ⟨slash, [c], rest⟩
  | '\\', _ => .ok ⟨backslash, [c], rest⟩
  | '=', '=' :: rest => .ok ⟨doubleEqual, [c, '='], rest⟩
  | '=', '~' :: rest => .ok ⟨matching, [c, '~'], rest⟩
  | '=', _ => .ok ⟨equal, [c], rest⟩
  | '!', '=' :: rest => .ok ⟨notEqual, [c, '='], rest⟩
  | '<', '=' :: rest => .ok ⟨lessEqual, [c, '='], rest⟩
  | '<', _ => .ok ⟨less, [c], rest⟩
  | '>', '=' :: rest => .ok ⟨greaterEqual, [c, '='], rest⟩
  | '>', _ => .ok ⟨greater, [c], rest⟩
  | _, _ => .error (.unexpectedCharacter c)

def ofMark? : Char → Option Token
  | '$' => some dollar
  | '*' => some star
  | ',' => some comma
  | ':' => some colon
  | '|' => some pipe
  | '&' => some ampersand
  | '[' => some leftBracket
  | ']' => some rightBracket
  | '(' => some leftParen
  | ')' => some rightParen
  | _ => none

def scan (profile : Profile) (c : Char) (rest : List Char) : Except LexFault Scanned :=
  match ofMark? c with
  | some token => .ok ⟨token, [c], rest⟩
  | none =>
    if c = '.' then
      match rest with
      | '.' :: rest => .ok ⟨doubleDot, [c, '.'], rest⟩
      | rest => .ok ⟨dot, [c], rest⟩
    else if c = '"' ∨ c = '\'' ∨ c = '`' then
      match scanQuoted c rest with
      | none => .error (.unterminatedQuote c)
      | some (said, text, rest) =>
        let said := String.ofList said
        .ok ⟨if c = '`' then namedOperator said else identifier said, c :: text, rest⟩
    else if c = '-' then
      match rest with
      | d :: _ =>
        if CharClass.isDigit d then scanNumber profile true rest
        else .error (.unexpectedCharacter c)
      | [] => .error (.unexpectedCharacter c)
    else if CharClass.isDigit c then scanNumber profile false (c :: rest)
    else if isNameStart c then
      let word := c :: rest.takeWhile isNamePart
      .ok ⟨ofWord profile word, word, rest.dropWhile isNamePart⟩
    else if profile.isExtended then scanOperator c rest
    else .error (.unexpectedCharacter c)

end Token

inductive Stop where
  | endOfText (position : Position)
  | fault (error : LexError)
deriving DecidableEq

structure TokenStream where
  lexemes : List Lexeme
  stop : Stop

namespace TokenStream

-- Every turn reads at least one character.
def scanFrom (profile : Profile) : Nat → Position → List Char → TokenStream
  | 0, position, _ => ⟨[], .endOfText position⟩
  | _ + 1, position, [] => ⟨[], .endOfText position⟩
  | turns + 1, position, c :: rest =>
    if CharClass.isBlank c then scanFrom profile turns (position.advance c) rest
    else
      match Token.scan profile c rest with
      | .error fault => ⟨[], .fault ⟨fault, position⟩⟩
      | .ok scanned =>
        let later := scanFrom profile turns (position.after scanned.text) scanned.rest
        ⟨⟨scanned.token, position, scanned.text⟩ :: later.lexemes, later.stop⟩

def ofText (profile : Profile) (text : String) : TokenStream :=
  scanFrom profile (text.toList.length + 1) .start text.toList

end TokenStream
end TreePath
