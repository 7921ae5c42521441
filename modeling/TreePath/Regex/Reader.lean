import TreePath.Regex.CharSet
import TreePath.Regex.Footprint
import TreePath.Number.Integer
namespace TreePath.Regex

structure Flags where
  ignoreCase : Bool
  multiLine : Bool
  dotAll : Bool
  swapGreed : Bool
  unicode : Bool
  ignoreSpace : Bool
  carriageReturns : Bool

def Flags.initial : Flags := ⟨false, false, false, false, true, false, false⟩

structure State where
  rest : List Char
  groups : Nat
  names : List (String × Nat)

abbrev Reading (α : Type) := Except Fault α

def malformed {α : Type} : Reading α := .error .malformed

def skipSpace (flags : Flags) (text : List Char) : List Char :=
  if flags.ignoreSpace then go text.length text else text
where
  go : Nat → List Char → List Char
    | 0, text => text
    | _ + 1, [] => []
    | turns + 1, c :: rest =>
      if CharClass.isBlank c then go turns rest
      else if c = '#' then go turns ((rest.dropWhile (· ≠ '\n')).drop 1)
      else c :: rest

-- Blanks and one number sign are passed over, but not the comment behind it.
def lookAhead (flags : Flags) (text : List Char) : Option Char :=
  if flags.ignoreSpace then
    let visible :=
      match text.dropWhile CharClass.isBlank with
      | '#' :: rest => rest.dropWhile CharClass.isBlank
      | rest => rest
    visible.head? <|> text.head?
  else text.head?

def takeSpaced (flags : Flags) (test : Char → Bool) : Nat → List Char → List Char × List Char
  | turns + 1, c :: rest =>
    if test c then
      let (taken, rest) := takeSpaced flags test turns (skipSpace flags rest)
      (c :: taken, rest)
    else ([], c :: rest)
  | _, text => ([], text)

inductive Atom where
  | char (code : Nat)
  | set (chars : CodeRanges)
  | look (condition : Look)

def isScalar (n : Nat) : Bool :=
  decide (n < 0xD800) || decide (0xE000 ≤ n ∧ n ≤ CodeRanges.highest)

def ofHexDigits? (digits : List Char) : Option Nat :=
  digits.foldl (fun n c => n.bind fun n => (CodeRanges.hexDigit? c).map fun d => n * 16 + d)
    (some 0)

-- Without Unicode, two digits above 7F would be part of a character.
def readHex (flags : Flags) (kind : Char) (text : List Char) : Reading (Atom × List Char) :=
  let isDigit (c : Char) : Bool := (CodeRanges.hexDigit? c).isSome
  match skipSpace flags text with
  | '\x7b' :: rest =>
    let (digits, rest) := takeSpaced flags isDigit text.length (skipSpace flags rest)
    match rest, ofHexDigits? digits with
    | '\x7d' :: rest, some n =>
      if digits ≠ [] ∧ isScalar n then .ok (.char n, rest) else malformed
    | _, _ => malformed
  | text =>
    let count := if kind = 'x' then 2 else if kind = 'u' then 4 else 8
    let (digits, rest) := takeSpaced flags isDigit count text
    match ofHexDigits? digits with
    | some n =>
      if digits.length < count || !isScalar n then malformed
      else if kind = 'x' && !flags.unicode && decide (127 < n) then malformed
      else .ok (.char n, rest)
    | none => malformed

def applyCase (flags : Flags) (set : CodeRanges) : CodeRanges :=
  if !flags.ignoreCase then set
  else if flags.unicode then ignoreCase set
  else ignoreAsciiCase set

def finishSet (flags : Flags) (negated : Bool) (set : CodeRanges) : Reading CodeRanges :=
  let set := applyCase flags set
  let set := if negated then set.complement else set
  if !flags.unicode && !set.isAscii then malformed else .ok set

def propertySet (flags : Flags) (negated : Bool) (name : List Char) : Reading CodeRanges :=
  let finish (negated : Bool) (set : Option CodeRanges) : Reading CodeRanges :=
    match set with
    | some set => finishSet flags negated set
    | none => malformed
  match Pieces.cut? ['!', '='] name with
  | some (property, value) => finish (!negated) (namedValue? property value)
  | none =>
    match Pieces.cut? [':'] name <|> Pieces.cut? ['='] name with
    | some (property, value) => finish negated (namedValue? property value)
    | none => finish negated (namedSet? name)

def readProperty (flags : Flags) (negated : Bool) (text : List Char) :
    Reading (Atom × List Char) :=
  if !flags.unicode then malformed
  else
    match skipSpace flags text with
    | [] => malformed
    | '\x7b' :: rest =>
      let (name, rest) := takeSpaced flags (· ≠ '\x7d') text.length (skipSpace flags rest)
      match rest with
      | [] => malformed
      | _ :: rest => (propertySet flags negated name).map fun set => (.set set, rest)
    | c :: rest =>
      if c = '\\' then malformed
      else (propertySet flags negated [c]).map fun set => (.set set, rest)

def letterClass (flags : Flags) (wide narrow : CodeRanges) (negated : Bool) : Reading Atom :=
  if flags.unicode then .ok (.set (if negated then wide.complement else wide))
  else if negated then malformed
  else .ok (.set narrow)

-- What is no name there is left to be read as a number of turns.
def readBoundary (flags : Flags) (text : List Char) : Reading (Boundary × List Char) :=
  match text with
  | '\x7b' :: rest =>
    let isNamePart (c : Char) : Bool := c.isAlpha || c == '-'
    match skipSpace flags rest with
    | [] => malformed
    | c :: rest =>
      if !isNamePart c then .ok (.edge, text)
      else
        let (name, rest) := takeSpaced flags isNamePart text.length (c :: rest)
        match String.ofList name, rest with
        | "start", '\x7d' :: rest => .ok (.start, rest)
        | "end", '\x7d' :: rest => .ok (.finish, rest)
        | "start-half", '\x7d' :: rest => .ok (.startHalf, rest)
        | "end-half", '\x7d' :: rest => .ok (.finishHalf, rest)
        | _, _ => malformed
  | text => .ok (.edge, text)

def isEscapable (c : Char) : Bool :=
  decide (c.toNat < 128) && !c.isAlphanum && c ≠ '<' && c ≠ '>'

def readEscape (flags : Flags) (text : List Char) : Reading (Atom × List Char) :=
  let word (boundary : Boundary) : Atom := .look (.word flags.unicode boundary)
  match text with
  | [] => malformed
  | c :: rest =>
    match c with
    | 'x' => readHex flags c rest
    | 'u' => readHex flags c rest
    | 'U' => readHex flags c rest
    | 'p' => readProperty flags false rest
    | 'P' => readProperty flags true rest
    | 'd' => (letterClass flags digits asciiDigits false).map (·, rest)
    | 'D' => (letterClass flags digits asciiDigits true).map (·, rest)
    | 's' => (letterClass flags spaces asciiSpaces false).map (·, rest)
    | 'S' => (letterClass flags spaces asciiSpaces true).map (·, rest)
    | 'w' => (letterClass flags words asciiWords false).map (·, rest)
    | 'W' => (letterClass flags words asciiWords true).map (·, rest)
    | 'a' => .ok (.char 7, rest)
    | 'f' => .ok (.char 12, rest)
    | 't' => .ok (.char 9, rest)
    | 'n' => .ok (.char 10, rest)
    | 'r' => .ok (.char 13, rest)
    | 'v' => .ok (.char 11, rest)
    | 'A' => .ok (.look .textStart, rest)
    | 'z' => .ok (.look .textEnd, rest)
    | 'b' => (readBoundary flags rest).map fun (boundary, rest) => (word boundary, rest)
    | 'B' => .ok (word .noEdge, rest)
    | '<' => .ok (word .start, rest)
    | '>' => .ok (word .finish, rest)
    | c => if isEscapable c then .ok (.char c.toNat, rest) else malformed

inductive SetOperator where
  | intersection | difference | symmetricDifference

def SetOperator.apply (flags : Flags) (operator : SetOperator) (a b : CodeRanges) : CodeRanges :=
  let a := applyCase flags a
  let b := applyCase flags b
  match operator with
  | intersection => a.intersection b
  | difference => a.difference b
  | symmetricDifference => a.symmetricDifference b

structure Nested (α : Type) where
  value : α
  depth : Nat

def levels (depths : List Nat) : Nat :=
  let deepest := depths.foldl Nat.max 0
  if 1 < depths.length then deepest + 1 else deepest

-- A set as far as it has been read: what stands left of the last operator, and what has come since, with the levels
-- of each item.
structure SetSoFar where
  left : Option (SetOperator × Nested CodeRanges)
  items : List (Nat × Nat)
  depths : List Nat

def SetSoFar.value (flags : Flags) (s : SetSoFar) : Nested CodeRanges :=
  let items : Nested CodeRanges := ⟨CodeRanges.ofList s.items, levels s.depths⟩
  match s.left with
  | none => items
  | some (operator, left) =>
    ⟨operator.apply flags left.value items.value, Nat.max left.depth items.depth + 1⟩

def SetSoFar.add (s : SetSoFar) (set : CodeRanges) (depth : Nat) : SetSoFar :=
  { s with items := set.ranges.toList ++ s.items, depths := depth :: s.depths }

def readNamedClass? (text : List Char) : Option (Bool × CodeRanges × List Char) :=
  match text with
  | '[' :: ':' :: rest =>
    let (negated, rest) :=
      match rest with
      | '^' :: rest => (true, rest)
      | rest => (false, rest)
    let name := rest.takeWhile (· ≠ ':')
    match rest.dropWhile (· ≠ ':') with
    | ':' :: ']' :: rest =>
      (asciiClass? (String.ofList name)).map fun set => (negated, set, rest)
    | _ => none
  | _ => none

def readItem (flags : Flags) : List Char → Reading (Atom × List Char)
  | [] => malformed
  | '\\' :: rest => readEscape flags rest
  | c :: rest => .ok (.char c.toNat, rest)

def itemCode (flags : Flags) : Atom → Reading Nat
  | .char code => if !flags.unicode && decide (127 < code) then malformed else .ok code
  | _ => malformed

def itemSet (flags : Flags) : Atom → Reading CodeRanges
  | .set set => .ok set
  | .look _ => malformed
  | atom => (itemCode flags atom).map CodeRanges.single

-- A hyphen makes a range unless a bracket or a hyphen follows.
def readRange (flags : Flags) (text : List Char) : Reading (CodeRanges × List Char) := do
  let (first, rest) ← readItem flags text
  let rest := skipSpace flags rest
  match rest with
  | [] => malformed
  | '-' :: after =>
    match lookAhead flags after with
    | some ']' => return (← itemSet flags first, rest)
    | some '-' => return (← itemSet flags first, rest)
    | _ =>
      let (last, rest) ← readItem flags (skipSpace flags after)
      let low ← itemCode flags first
      let high ← itemCode flags last
      if high < low then malformed else return (⟨#[(low, high)]⟩, rest)
  | rest => return (← itemSet flags first, rest)

def leadingHyphens (flags : Flags) : Nat → List Char → Nat × List Char
  | turns + 1, '-' :: rest =>
    let (count, rest) := leadingHyphens flags turns (skipSpace flags rest)
    (count + 1, rest)
  | _, text => (0, text)

def readItems (flags : Flags) (nested : List Char → Reading (Nested CodeRanges × List Char)) :
    Nat → SetSoFar → List Char → Reading (Nested CodeRanges × List Char)
  | 0, _, _ => malformed
  | turns + 1, s, text =>
    let operate (operator : SetOperator) (rest : List Char) :=
      readItems flags nested turns ⟨some (operator, s.value flags), [], []⟩ rest
    let text := skipSpace flags text
    match text with
    | [] => malformed
    | '&' :: '&' :: rest => operate .intersection rest
    | '-' :: '-' :: rest => operate .difference rest
    | '~' :: '~' :: rest => operate .symmetricDifference rest
    | ']' :: rest => .ok (s.value flags, rest)
    | '[' :: rest =>
      match readNamedClass? text with
      | some (negated, set, rest) => do
        let set ← finishSet flags negated set
        readItems flags nested turns (s.add set 0) rest
      | none => do
        let (inner, rest) ← nested rest
        readItems flags nested turns (s.add inner.value inner.depth) rest
    | text => do
      let (set, rest) ← readRange flags text
      readItems flags nested turns (s.add set 0) rest

def maxNesting : Nat := 250

-- A closing bracket at its start stands for itself.
def readClass (flags : Flags) : Nat → List Char → Reading (Nested CodeRanges × List Char)
  | 0, _ => malformed
  | depth + 1, text => do
    let text := skipSpace flags text
    let (negated, text) :=
      match text with
      | '^' :: rest => (true, skipSpace flags rest)
      | text => (false, text)
    let (hyphens, text) := leadingHyphens flags text.length text
    let start : List (Nat × Nat) := List.replicate hyphens (45, 45)
    let (start, text) :=
      match start, text with
      | [], ']' :: rest => ([(93, 93)], skipSpace flags rest)
      | start, text => (start, text)
    let s : SetSoFar := ⟨none, start, start.map fun _ => 0⟩
    let (inner, rest) ← readItems flags (readClass flags depth) (text.length + 1) s text
    let set ← finishSet flags negated inner.value
    return (⟨set, inner.depth + 1⟩, rest)

def Flags.set (flags : Flags) (value : Bool) : Char → Option Flags
  | 'i' => some { flags with ignoreCase := value }
  | 'm' => some { flags with multiLine := value }
  | 's' => some { flags with dotAll := value }
  | 'U' => some { flags with swapGreed := value }
  | 'u' => some { flags with unicode := value }
  | 'x' => some { flags with ignoreSpace := value }
  | 'R' => some { flags with carriageReturns := value }
  | _ => none

-- No flag may come twice, and a hyphen turns off what follows it.
def readFlags (flags : Flags) (value : Bool) (seen : List Char) :
    List Char → Reading (Flags × List Char × List Char)
  | [] => malformed
  | c :: rest =>
    if c = ':' ∨ c = ')' then
      if seen.head? = some '-' then malformed else .ok (flags, seen, c :: rest)
    else if seen.contains c then malformed
    else if c = '-' then readFlags flags false (c :: seen) rest
    else
      match flags.set value c with
      | some flags => readFlags flags value (c :: seen) rest
      | none => malformed

def isNameStart (c : Char) : Bool := c == '_' || CharClass.isLetter c

def isNamePart (c : Char) : Bool :=
  c == '_' || c == '.' || c == '[' || c == ']' || CharClass.isLetterOrNumber c

def readName (text : List Char) : Reading (String × List Char) :=
  let name := text.takeWhile (· ≠ '>')
  match name, text.dropWhile (· ≠ '>') with
  | first :: others, _ :: rest =>
    if isNameStart first && others.all isNamePart then .ok (String.ofList name, rest) else malformed
  | _, _ => malformed

def readCount (flags : Flags) (text : List Char) : Reading (Nat × List Char) :=
  let text := text.dropWhile CharClass.isBlank
  let (digits, rest) := takeSpaced flags CharClass.isDigit text.length text
  match Integer.readDigits? digits with
  | some n =>
    if n < Nat.pow 2 32 then .ok (n, rest.dropWhile CharClass.isBlank) else malformed
  | none => malformed

def readBounds (flags : Flags) (text : List Char) : Reading (Nat × Option Nat × List Char) := do
  let (least, rest) ← readCount flags (skipSpace flags text)
  match rest with
  | '\x7d' :: rest => return (least, some least, rest)
  | ',' :: rest =>
    match skipSpace flags rest with
    | '\x7d' :: rest => return (least, none, rest)
    | rest =>
      let (most, rest) ← readCount flags rest
      match rest with
      | '\x7d' :: rest => if most < least then malformed else return (least, some most, rest)
      | _ => malformed
  | _ => malformed

def readGreed (flags : Flags) (text : List Char) : Bool × List Char :=
  match text with
  | '?' :: rest => (flags.swapGreed, rest)
  | text => (!flags.swapGreed, text)

inductive Item where
  | node (n : Nested Node)
  | flags

def Item.toNode : Item → Nested Node
  | node n => n
  | flags => ⟨.empty, 0⟩

def Nested.join (combine : List Node → Node) (parts : List (Nested Node)) : Nested Node :=
  ⟨combine (parts.map Nested.value), levels (parts.map Nested.depth)⟩

structure Progress where
  complete : List (Nested Node)
  items : List Item

def Progress.sequence (p : Progress) : Nested Node :=
  Nested.join Node.ofList (p.items.reverse.map Item.toNode)

def Progress.value (p : Progress) : Nested Node :=
  Nested.join Node.ofAlternatives ((p.sequence :: p.complete).reverse)

def Progress.add (p : Progress) (n : Node) (depth : Nat) : Progress :=
  { p with items := .node ⟨n, depth⟩ :: p.items }

def Progress.repeatLast (p : Progress) (least : Nat) (most : Option Nat) (greedy : Bool) :
    Reading Progress :=
  match p.items with
  | .node n :: rest =>
    let again : Nested Node := ⟨n.value.repeated least most greedy, n.depth + 1⟩
    .ok { p with items := .node again :: rest }
  | _ => malformed

def atomNode (flags : Flags) : Atom → Node
  | .char code =>
    if !flags.unicode && decide (127 < code) then .literal [code]
    else .ofSet (applyCase flags (CodeRanges.single code))
  | .set set => .ofSet set
  | .look condition => .look condition

def dotNode (flags : Flags) : Reading Node :=
  if !flags.unicode then malformed
  else if flags.dotAll then .ok (.set everything)
  else if flags.carriageReturns then .ok (.set (CodeRanges.ofText "A D").complement)
  else .ok (.set (CodeRanges.ofText "A").complement)

def lineStartNode (flags : Flags) : Node :=
  .look (if flags.multiLine then .lineStart flags.carriageReturns else .textStart)

def lineEndNode (flags : Flags) : Node :=
  .look (if flags.multiLine then .lineEnd flags.carriageReturns else .textEnd)

inductive Opening where
  | group (flags : Flags) (index : Option Nat) (state : State)
  | setting (flags : Flags) (rest : List Char)

def isLookAround : List Char → Bool
  | '?' :: '=' :: _ | '?' :: '!' :: _ | '?' :: '<' :: '=' :: _ | '?' :: '<' :: '!' :: _ => true
  | _ => false

def readNamedOpening (flags : Flags) (state : State) (text : List Char) : Reading Opening := do
  let (name, rest) ← readName text
  if state.names.any (fun entry => entry.1 == name) then malformed
  else
    let index := state.groups + 1
    return .group flags (some index) ⟨rest, index, (name, index) :: state.names⟩

def readOpening (flags : Flags) (state : State) (text : List Char) : Reading Opening :=
  let text := skipSpace flags text
  if isLookAround text then malformed
  else
    match text with
    | '?' :: 'P' :: '<' :: rest => readNamedOpening flags state rest
    | '?' :: '<' :: rest => readNamedOpening flags state rest
    | '?' :: rest => do
      let (inner, seen, rest) ← readFlags flags true [] rest
      match rest with
      | ')' :: rest => if seen = [] then malformed else return .setting inner rest
      | _ :: rest => return .group inner none { state with rest := rest }
      | [] => malformed
    | text =>
      let index := state.groups + 1
      .ok (.group flags (some index) { state with rest := text, groups := index })

-- Every turn reads at least one character. The closing bracket is left.
def readGroupBody (body : Flags → State → Reading (Nested Node × State)) :
    Nat → Flags → Progress → State → Reading (Nested Node × State)
  | 0, _, p, state => .ok (p.value, state)
  | turns + 1, flags, p, state =>
    let next (p : Progress) (rest : List Char) :=
      readGroupBody body turns flags p { state with rest := rest }
    let repetition (least : Nat) (most : Option Nat) (rest : List Char) := do
      let (greedy, rest) := readGreed flags rest
      next (← p.repeatLast least most greedy) rest
    match skipSpace flags state.rest with
    | [] => .ok (p.value, { state with rest := [] })
    | c :: rest =>
      match c with
      | ')' => .ok (p.value, { state with rest := c :: rest })
      | '|' => next ⟨p.sequence :: p.complete, []⟩ rest
      | '(' => do
        match ← readOpening flags state rest with
        | .setting inner rest =>
          readGroupBody body turns inner { p with items := .flags :: p.items }
            { state with rest := rest }
        | .group inner index opened =>
          let (node, closed) ← body inner opened
          match closed.rest with
          | ')' :: rest =>
            let value :=
              match index with
              | some index => .group index node.value
              | none => node.value
            readGroupBody body turns flags (p.add value (node.depth + 1))
              { closed with rest := rest }
          | _ => malformed
      | '[' => do
        let (set, rest) ← readClass flags maxNesting rest
        next (p.add (.ofSet set.value) set.depth) rest
      | '?' => repetition 0 (some 1) rest
      | '*' => repetition 0 none rest
      | '+' => repetition 1 none rest
      | '\x7b' => do
        let (least, most, rest) ← readBounds flags rest
        repetition least most (skipSpace flags rest)
      | '\\' => do
        let (atom, rest) ← readEscape flags rest
        next (p.add (atomNode flags atom) 0) rest
      | '.' => do next (p.add (← dotNode flags) 0) rest
      | '^' => next (p.add (lineStartNode flags) 0) rest
      | '$' => next (p.add (lineEndNode flags) 0) rest
      | c => next (p.add (atomNode flags (.char c.toNat)) 0) rest

def readBody : Nat → Flags → State → Reading (Nested Node × State)
  | 0, _, _ => malformed
  | depth + 1, flags, state =>
    readGroupBody (readBody depth) (state.rest.length + 1) flags ⟨[], []⟩ state

structure Expression where
  node : Node
  groups : Nat
  names : List (String × Nat)

def read (source : List Char) : Reading Expression := do
  let (node, state) ← readBody (maxNesting + 1) .initial ⟨source, 0, []⟩
  if state.rest ≠ [] ∨ maxNesting < node.depth then malformed
  else if node.value.isTooLarge then .error .tooLarge
  else return ⟨node.value, state.groups, state.names⟩

end TreePath.Regex
