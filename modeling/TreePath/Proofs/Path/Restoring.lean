import TreePath.Proofs.Path.Derivation
import TreePath.Proofs.Path.OperatorText
import TreePath.Proofs.Path.Reported
import TreePath.Proofs.Token.Literals
namespace TreePath
open Grammar

-- The levels of brackets, and of right operands of arithmetic, in the text of a path.
def bracketedLevels (tightness least levels : Nat) : Nat := if tightness < least then levels + 1 else levels

mutual
def Path.levels : Path → Nat
  | .root => 0
  | .this => 0
  | .parent => 0
  | .wildcard => 0
  | .fields _ => 0
  | .index _ => 1
  | .slice _ _ _ => 1
  | .child left right =>
    max (bracketedLevels left.tightness 4 left.levels) (bracketedLevels right.tightness 5 right.levels)
  | .descendants left right =>
    max (bracketedLevels left.tightness 3 left.levels) (bracketedLevels right.tightness 4 right.levels)
  | .whereSome left right =>
    max (bracketedLevels left.tightness 6 left.levels) (bracketedLevels right.tightness 7 right.levels)
  | .whereNone left right =>
    max (bracketedLevels left.tightness 6 left.levels) (bracketedLevels right.tightness 7 right.levels)
  | .union alternatives => unionLevels alternatives
  | .filter conditions => conditionsLevels conditions + 1
  | .sort keys => keysLevels keys + 1
  | .arithmetic _ left right => max (left.levels 2) (right.levels 1 + 1)
  | .named _ => 0

def unionLevels : List Path → Nat
  | [] => 0
  | p :: rest => max (bracketedLevels p.tightness 6 p.levels) (unionLevels rest)

def Condition.levels : Condition → Nat
  | .present target => target.levels
  | .compare target _ _ => target.levels

def conditionsLevels : List Condition → Nat
  | [] => 0
  | c :: rest => max c.levels (conditionsLevels rest)

def SortKey.levels : SortKey → Nat
  | .mk _ path => bracketedLevels path.tightness 2 path.levels

def keysLevels : List SortKey → Nat
  | [] => 0
  | k :: rest => max k.levels (keysLevels rest)

def Operand.levels (least : Nat) : Operand → Nat
  | .literal _ => 0
  | .path path => bracketedLevels path.tightness least path.levels
end

-- What stands between double quotation marks as it is: other control characters than these are written as
-- escapes that the lexer does not know.
def Visible (s : String) : Prop := ∀ c ∈ s.toList, CharClass.isControl c = false

def Literal.Restorable : Literal → Prop
  | .string s => Visible s
  | .pattern p => Visible p.source
  | .real x => x.isFinite = true ∧ FloatText.isModest x = true ∧ FloatText.isTiny x = false
  | _ => True

-- Path expressions none of whose parts is written so that it would be read as something else: names that are
-- read as numbers or as the current value, characters that the lexer takes for others, numbers with an exponent
-- or without a fraction, and targets of conditions that start with a bracket.
mutual
def Path.Restorable : Path → Prop
  | .root => True
  | .this => True
  | .parent => True
  | .wildcard => True
  | .fields names => names.head? ≠ some "@" ∧ ∀ name ∈ names, needsQuotes name = true ∨ IsWord name
  | .index _ => True
  | .slice _ _ _ => True
  | .child left right => left.Restorable ∧ right.Restorable
  | .descendants left right => left.Restorable ∧ right.Restorable
  | .whereSome left right => left.Restorable ∧ right.Restorable
  | .whereNone left right => left.Restorable ∧ right.Restorable
  | .union alternatives => restorablePaths alternatives
  | .filter conditions => restorableConditions conditions
  | .sort keys => restorableKeys keys
  | .arithmetic _ left right => left.Restorable ∧ right.Restorable
  | .named operator => operator.Restorable

def restorablePaths : List Path → Prop
  | [] => True
  | p :: rest => p.Restorable ∧ restorablePaths rest

def Condition.Restorable : Condition → Prop
  | .present target => target.Restorable ∧ target.text.toList.head? ≠ some '('
  | .compare target _ literal =>
    (target.Restorable ∧ target.text.toList.head? ≠ some '(') ∧ literal.Restorable

def restorableConditions : List Condition → Prop
  | [] => True
  | c :: rest => c.Restorable ∧ restorableConditions rest

def SortKey.Restorable : SortKey → Prop
  | .mk _ path => path.Restorable

def restorableKeys : List SortKey → Prop
  | [] => True
  | k :: rest => k.Restorable ∧ restorableKeys rest

def Operand.Restorable : Operand → Prop
  | .literal (.string s) => Visible s ∧ s ≠ "@"
  | .literal (.float x) => x.isFinite = true ∧ (FloatText.isWhole x = true → FloatText.isModest x = true)
  | .literal _ => True
  | .path path => path.Restorable
end

variable {s : Setting} {levels levels' least tightness : Nat} {p left right : Path}
  {text : String} {tokens : List Token} {written rest : List Lexeme}

theorem restorablePaths_iff {paths : List Path} : restorablePaths paths ↔ ∀ p ∈ paths, p.Restorable :=
  forall_mem_of_parts trivial fun _ _ => .rfl

theorem restorableConditions_iff {all : List Condition} : restorableConditions all ↔ ∀ c ∈ all, c.Restorable :=
  forall_mem_of_parts trivial fun _ _ => .rfl

theorem restorableKeys_iff {keys : List SortKey} : restorableKeys keys ↔ ∀ k ∈ keys, k.Restorable :=
  forall_mem_of_parts trivial fun _ _ => .rfl

-- A setting of the extended grammar in which no fault ends the tokens.
structure Settled (s : Setting) : Prop where
  extended : s.profile = .extended
  ended : ∃ last, s.stop = .endOfText last

theorem Settled.isExtended (settled : Settled s) : s.isExtended = true :=
  congrArg Profile.isExtended settled.extended

-- A text that is read as these tokens, and they as this path wherever operators of such tightness may stand.
structure Pathlike (levels tightness : Nat) (text : String) (p : Path) (tokens : List Token) : Prop where
  readable : Readable .extended text tokens
  opening : tokens.head? = some .leftParen → text.toList.head? = some '('
  climbs : ∀ {s depth written}, Settled s → levels ≤ depth → written.map Lexeme.token = tokens →
    Climbs s (level s depth) tightness p written

-- Nothing goes on with a number or a name in these characters.
def Parted (rest : List Char) : Prop := ∀ c ∈ rest.head?, Token.isNamePart c = false ∧ c ≠ '.'

-- Tokens that may stand behind a whole expression.
def Token.halts : Token → Bool
  | rightParen | rightBracket | ampersand | equal | doubleEqual | notEqual | less | lessEqual | greater
  | greaterEqual | matching => true
  | _ => false

def Halts (rest : List Lexeme) : Prop := ∀ token ∈ head? rest, token.halts = true

-- A text that is read as these tokens, and they as this path wherever an expression may stand.
structure Expressed (levels : Nat) (text : String) (p : Path) (tokens : List Token) : Prop where
  reads : ∀ rest, Parted rest → Reads .extended (text.toList ++ rest) tokens rest
  opening : tokens.head? = some .leftParen → text.toList.head? = some '('
  derives : ∀ {s depth written rest}, Settled s → levels ≤ depth → written.map Lexeme.token = tokens → Halts rest →
    Derives s (.expression depth (written ++ rest) p rest)

theorem Halts.ends (halts : Halts rest) : Ends 0 rest := by
  cases head : head? rest with
  | none =>
    cases rest with
    | nil => exact ends_nil
    | cons => cases head
  | some token =>
    have halting := halts token head
    refine ends_token head ?_ ?_ fun operator sign => ?_
    · rintro rfl
      cases halting
    · rintro rfl
      cases halting
    · cases token <;> first | exact absurd halting (by decide) | cases sign

theorem Halts.alone (halts : Halts rest) : arithmeticOperator? s rest = none := by
  cases sign : arithmeticOperator? s rest with
  | none => rfl
  | some operator =>
    have halting := halts _ (arithmeticOperator?_exact.mp sign).2
    cases operator <;> cases halting

namespace Parted

variable {rest : List Char} (parted : Parted rest)
include parted

theorem name : ∀ c ∈ rest.head?, Token.isNamePart c = false :=
  fun c here => (parted c here).1

theorem digit : ∀ c ∈ rest.head?, CharClass.isDigit c = false := by
  intro c here
  cases digit : CharClass.isDigit c with
  | false => rfl
  | true =>
    have noName := (parted c here).1
    rw [isNamePart_of_isDigit digit] at noName
    cases noName

theorem point : rest.head? ≠ some '.' :=
  fun here => (parted '.' here).2 rfl

end Parted

-- A bracket at the start of a text in a row stands at the start of the first of the texts.
theorem opening_append {token : Token} {more : List Token} {behind : String}
    (opening : tokens.head? = some .leftParen → text.toList.head? = some '(') (other : token ≠ .leftParen)
    (head : (tokens ++ token :: more).head? = some .leftParen) : (text ++ behind).toList.head? = some '(' := by
  rw [List.head?_append] at head
  rcases Option.or_eq_some_iff.mp head with opens | ⟨_, opens⟩
  · rw [String.toList_append, List.head?_append, opening opens]
    rfl
  · exact absurd (Option.some.inj opens) other

namespace Pathlike

theorem mono (pathlike : Pathlike levels tightness text p tokens) (enough : levels ≤ levels') :
    Pathlike levels' tightness text p tokens :=
  ⟨pathlike.readable, pathlike.opening, fun settled deep => pathlike.climbs settled (Nat.le_trans enough deep)⟩

theorem expressed (pathlike : Pathlike levels tightness text p tokens) : Expressed levels text p tokens :=
  ⟨fun rest parted => pathlike.readable.reads rest parted.name, pathlike.opening, fun settled deep spelled halts =>
    expression_derived.mp (expression_read (pathlike.climbs settled deep spelled) halts.ends halts.alone)⟩

theorem binary {levelsRight tightLeft tightRight : Nat} {textRight : String} {tokensRight : List Token}
    (operator : Infix) (first : Pathlike levels tightLeft text left tokens)
    (second : Pathlike levelsRight tightRight textRight right tokensRight)
    (atLeft : operator.tightness ≤ tightLeft) (atRight : operator.tightness < tightRight) :
    Pathlike (max levels levelsRight) operator.tightness (text ++ operator.symbol ++ textRight)
      (operator.combine left right) (tokens ++ operator.token :: tokensRight) := by
  refine ⟨readable_binary operator first.readable second.readable, fun head => ?_, fun settled deep spelled => ?_⟩
  · rw [String.append_assoc]
    exact opening_append first.opening (by cases operator <;> nofun) head
  · obtain ⟨last, ended⟩ := settled.ended
    obtain ⟨before, behind, rfl, isLeft, others⟩ := List.map_eq_append_iff.mp spelled
    obtain ⟨sign, behind, rfl, isSign, isRight⟩ := List.map_eq_cons_iff.mp others
    exact climbs_binary operator ended isSign
      (first.climbs settled (Nat.le_trans (Nat.le_max_left _ _) deep) isLeft)
      (second.climbs settled (Nat.le_trans (Nat.le_max_right _ _) deep) isRight) atLeft atRight

end Pathlike

theorem parted_mark {c : Char} {rest : List Char} (noName : Token.isNamePart c = false) (noPoint : c ≠ '.') :
    Parted (c :: rest) := by
  intro d here
  cases here
  exact ⟨noName, noPoint⟩

theorem halts_token {lexeme : Lexeme} (halts : lexeme.token.halts = true) : Halts (lexeme :: rest) := by
  intro token here
  cases here
  exact halts

theorem head?_append {more : List Lexeme} :
    head? (written ++ more) = (written.map Lexeme.token).head?.or (head? more) := by
  cases written <;> rfl

-- A text that starts with no bracket has no bracket among its tokens to start with.
theorem Expressed.apart (expressed : Expressed levels text p tokens) (bare : text.toList.head? ≠ some '(')
    (spelled : written.map Lexeme.token = tokens) (halts : Halts rest) :
    head? (written ++ rest) ≠ some .leftParen := by
  intro head
  rw [head?_append, spelled] at head
  rcases Option.or_eq_some_iff.mp head with opens | ⟨_, opens⟩
  · exact bare (expressed.opening opens)
  · cases halts _ opens

theorem Expressed.parens (expressed : Expressed levels text p tokens) :
    Pathlike (levels + 1) 9 ("(" ++ text ++ ")") p (.leftParen :: (tokens ++ [.rightParen])) := by
  refine ⟨readable_parens fun rest => ?_, fun _ => by simp, fun settled deep spelled => ?_⟩
  · exact expressed.reads (')' :: rest) (parted_mark (by decide) (by decide))
  · obtain ⟨last, ended⟩ := settled.ended
    obtain ⟨opens, inner, closes, rfl, opening, innerSpelled, closing⟩ := spelled_brackets spelled
    obtain ⟨below, rfl, enough⟩ := level_below deep
    exact climbs_enclosed ended opening closing fun rest =>
      expression_derived.mpr (expressed.derives settled enough innerSpelled (halts_token (by rw [closing]; rfl)))

-- The text of a path is read as the path, as an expression and, if it is no arithmetic, as an operand.
structure Path.Back (p : Path) : Prop where
  expressed : ∃ tokens, Expressed p.levels p.text p tokens
  pathlike : 2 ≤ p.tightness → ∃ tokens, Pathlike p.levels p.tightness p.text p tokens

theorem back_of_pathlike (pathlike : Pathlike p.levels p.tightness p.text p tokens) : p.Back :=
  ⟨⟨tokens, pathlike.expressed⟩, fun _ => ⟨tokens, pathlike⟩⟩

theorem Path.Back.operand (back : p.Back) (least : Nat) (atLeast : 2 ≤ least) (possible : least ≤ 9) :
    ∃ tight tokens, least ≤ tight ∧
      Pathlike (bracketedLevels p.tightness least p.levels) tight (bracketed p.tightness least p.text) p tokens := by
  unfold bracketedLevels bracketed
  by_cases loose : p.tightness < least
  · obtain ⟨tokens, expressed⟩ := back.expressed
    rw [if_pos loose, if_pos loose]
    exact ⟨9, _, possible, expressed.parens⟩
  · obtain ⟨tokens, pathlike⟩ := back.pathlike (by omega)
    rw [if_neg loose, if_neg loose]
    exact ⟨p.tightness, tokens, Nat.not_lt.mp loose, pathlike⟩

end TreePath
