import TreePath.Json.Document
import TreePath.Text.CodeRanges
namespace TreePath
namespace Json

def isSpace (c : Char) : Bool := c == ' ' || c == '\t' || c == '\n' || c == '\r'

def skipSpace (text : List Char) : List Char := text.dropWhile isSpace

structure NumberText where
  negative : Bool
  whole : List Char
  fraction : Option (List Char)
  exponent : Option Int

def readFraction : List Char → Option (Option (List Char) × List Char)
  | '.' :: rest =>
    let digits := rest.takeWhile CharClass.isDigit
    if digits = [] then none else some (some digits, rest.dropWhile CharClass.isDigit)
  | text => some (none, text)

def readSign : List Char → Bool × List Char
  | '-' :: rest => (true, rest)
  | '+' :: rest => (false, rest)
  | text => (false, text)

def readExponent : List Char → Option (Option Int × List Char)
  | [] => some (none, [])
  | c :: rest =>
    if c = 'e' ∨ c = 'E' then
      let (negative, digits) := readSign rest
      let power : Int := Integer.ofDigits (digits.takeWhile CharClass.isDigit)
      if digits.takeWhile CharClass.isDigit = [] then none
      else some (some (if negative then -power else power), digits.dropWhile CharClass.isDigit)
    else some (none, c :: rest)

def readNumberText (text : List Char) : Option (NumberText × List Char) :=
  let (negative, digits) :=
    match text with
    | '-' :: rest => (true, rest)
    | _ => (false, text)
  let whole := digits.takeWhile CharClass.isDigit
  match whole with
  | [] => none
  | first :: others =>
    if first = '0' ∧ others ≠ [] then none
    else
      (readFraction (digits.dropWhile CharClass.isDigit)).bind fun (fraction, rest) =>
        (readExponent rest).map fun (exponent, rest) =>
          (⟨negative, whole, fraction, exponent⟩, rest)

-- Goes on with a number that has been read, as far as 64 bits hold it, and leaves the other digits.
def readSignificand (read : Nat) : List Char → Nat × List Char
  | [] => (read, [])
  | digit :: digits =>
    let longer := read * 10 + (digit.toNat - 48)
    if longer < Nat.pow 2 64 then readSignificand longer digits else (read, digit :: digits)

def powerOfTen (power : Nat) : Float := Float.ofScientific 1 false power

-- Scaling rounds a second time, so the result may be a neighbour of the nearest double.
def scale? (x : Float) (power : Int) : Option Float :=
  if power.natAbs ≤ 308 then
    some (if 0 ≤ power then x * powerOfTen power.natAbs else x / powerOfTen power.natAbs)
  else if x == 0 then some x
  else if 0 ≤ power then none
  else scale? (x / powerOfTen 308) (power + 308)
termination_by (-power).toNat
decreasing_by omega

-- Digits that 64 bits do not hold count as places, or for nothing behind the point. An exponent beyond
-- 32 bits is not looked at any closer.
def magnitude? (whole places : List Char) (exponent : Int) : Option Float :=
  let (significand, beyond) := readSignificand 0 whole
  let (significand, ignored) := readSignificand significand places
  if 2147483647 < exponent.natAbs then
    if significand ≠ 0 ∧ 0 < exponent then none else some 0
  else
    let power := exponent + beyond.length - (places.length - ignored.length : Nat)
    scale? (Float.ofNat significand) power

def Number.ofParts? (negative : Bool) (whole places : List Char) (exponent : Int) : Option Number :=
  (magnitude? whole places exponent).bind fun magnitude =>
    let x := if negative then -magnitude else magnitude
    if h : x.isFinite = true then some (.real x h) else none

-- Minus zero is a double.
def NumberText.number? (t : NumberText) : Option Number :=
  let whole := Integer.ofDigits t.whole
  match t.fraction, t.exponent with
  | none, none =>
    if t.negative then
      match Integer.ofInt? (-(whole : Int)) with
      | some n => if h : n.toInt < 0 then some (.negative n h) else Number.ofParts? true t.whole [] 0
      | none => Number.ofParts? true t.whole [] 0
    else if whole < Nat.pow 2 64 then some (.unsigned (UInt64.ofNat whole))
    else Number.ofParts? false t.whole [] 0
  | fraction, exponent => Number.ofParts? t.negative t.whole (fraction.getD []) (exponent.getD 0)

def readUnit : List Char → Option (Nat × List Char)
  | a :: b :: c :: d :: rest => do
    let a ← CodeRanges.hexDigit? a
    let b ← CodeRanges.hexDigit? b
    let c ← CodeRanges.hexDigit? c
    let d ← CodeRanges.hexDigit? d
    return (((a * 16 + b) * 16 + c) * 16 + d, rest)
  | _ => none

-- A high half of a pair needs its low half.
def readEscapedUnit (text : List Char) : Option (Char × List Char) := do
  let (high, rest) ← readUnit text
  if 0xD800 ≤ high ∧ high < 0xDC00 then
    match rest with
    | '\\' :: 'u' :: rest =>
      let (low, rest) ← readUnit rest
      if 0xDC00 ≤ low ∧ low < 0xE000 then
        return (Char.ofNat (0x10000 + (high - 0xD800) * 1024 + (low - 0xDC00)), rest)
      else none
    | _ => none
  else if 0xDC00 ≤ high ∧ high < 0xE000 then none
  else return (Char.ofNat high, rest)

def readEscape : List Char → Option (Char × List Char)
  | '"' :: rest => some ('"', rest)
  | '\\' :: rest => some ('\\', rest)
  | '/' :: rest => some ('/', rest)
  | 'b' :: rest => some ('\x08', rest)
  | 'f' :: rest => some ('\x0c', rest)
  | 'n' :: rest => some ('\n', rest)
  | 'r' :: rest => some ('\r', rest)
  | 't' :: rest => some ('\t', rest)
  | 'u' :: rest => readEscapedUnit rest
  | _ => none

-- Every turn reads at least one character.
def readStringBody : Nat → List Char → List Char → Option (String × List Char)
  | 0, _, _ => none
  | _ + 1, [], _ => none
  | turns + 1, c :: rest, read =>
    if c = '"' then some (String.ofList read.reverse, rest)
    else if c = '\\' then
      match readEscape rest with
      | none => none
      | some (d, rest) => readStringBody turns rest (d :: read)
    else if c.toNat < 32 then none
    else readStringBody turns rest (c :: read)

def readString (text : List Char) : Option (String × List Char) :=
  readStringBody text.length text []

abbrev Reader (α : Type) := List Char → Option (α × List Char)

def readItems (element : Reader Document) : Nat → List Document → Reader (List Document)
  | 0, _, _ => none
  | turns + 1, read, text => do
    let (item, rest) ← element (skipSpace text)
    match skipSpace rest with
    | ',' :: rest => readItems element turns (item :: read) rest
    | ']' :: rest => return ((item :: read).reverse, rest)
    | _ => none

def readMembers (element : Reader Document) :
    Nat → List (String × Document) → Reader (List (String × Document))
  | 0, _, _ => none
  | turns + 1, read, text =>
    match skipSpace text with
    | '"' :: rest => do
      let (name, rest) ← readString rest
      match skipSpace rest with
      | ':' :: rest =>
        let (value, rest) ← element (skipSpace rest)
        let read := Document.insertMember name value read
        match skipSpace rest with
        | ',' :: rest => readMembers element turns read rest
        | '\x7d' :: rest => return (read, rest)
        | _ => none
      | _ => none
    | _ => none

def maxDepth : Nat := 127

def readValue : Nat → Reader Document
  | depth, text =>
    match text with
    | 'n' :: 'u' :: 'l' :: 'l' :: rest => some (.null, rest)
    | 't' :: 'r' :: 'u' :: 'e' :: rest => some (.boolean true, rest)
    | 'f' :: 'a' :: 'l' :: 's' :: 'e' :: rest => some (.boolean false, rest)
    | '"' :: rest => (readString rest).map fun (s, rest) => (.string s, rest)
    | '[' :: rest =>
      match depth with
      | 0 => none
      | depth + 1 =>
        match skipSpace rest with
        | ']' :: rest => some (.array [], rest)
        | rest =>
          (readItems (readValue depth) rest.length [] rest).map fun (items, rest) =>
            (.array items, rest)
    | '\x7b' :: rest =>
      match depth with
      | 0 => none
      | depth + 1 =>
        match skipSpace rest with
        | '\x7d' :: rest => some (.object [], rest)
        | rest =>
          (readMembers (readValue depth) rest.length [] rest).map fun (members, rest) =>
            (.object members, rest)
    | text => do
      let (parts, rest) ← readNumberText text
      let number ← parts.number?
      return (.number number, rest)

def Document.read? (text : String) : Option Document :=
  match readValue maxDepth (skipSpace text.toList) with
  | some (document, rest) => if skipSpace rest = [] then some document else none
  | none => none

end Json

def Value.ofJson? (text : String) : Option Value :=
  (Json.Document.read? text).map Json.Document.toValue

end TreePath
