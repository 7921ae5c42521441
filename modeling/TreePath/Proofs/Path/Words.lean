import TreePath.Path.Grammar
import TreePath.Proofs.Path.Names
namespace TreePath

namespace Grammar.Infix

def token : Infix → Token
  | descendants => .doubleDot
  | child => .dot
  | union => .pipe
  | whereSome => .whereSome
  | whereNone => .whereNone

def symbol : Infix → String
  | descendants => ".."
  | child => "."
  | union => "|"
  | whereSome => " where "
  | whereNone => " wherenot "

end Grammar.Infix

open Grammar (Infix)

def boundTokens : Option Int64 → List Token
  | none => []
  | some n => [.number n]

def stepTokens : Option Int64 → List Token
  | none => []
  | some n => [.colon, .number n]

def sliceTokens (start stop step : Option Int64) : List Token :=
  match start, stop, step with
  | none, none, none => [.leftBracket, .star, .rightBracket]
  | start, stop, step => .leftBracket ::
    (boundTokens start ++ .colon :: (boundTokens stop ++ stepTokens step) ++ [.rightBracket])

def fieldTokens (profile : Profile) : List String → List Token
  | [] => []
  | [name] => [nameToken profile name]
  | name :: rest => nameToken profile name :: .comma :: fieldTokens profile rest

def bracketedTokens (tightness least : Nat) (tokens : List Token) : List Token :=
  if tightness < least then .leftParen :: (tokens ++ [.rightParen]) else tokens

-- Of the paths that are written without filters, sorting, arithmetic and named operators.
mutual
def Path.tokens (profile : Profile) : Path → List Token
  | .root => [.dollar]
  | .this => [.namedOperator "this"]
  | .parent => [.namedOperator "parent"]
  | .wildcard => [.star]
  | .fields names => fieldTokens profile names
  | .index i => [.leftBracket, .number i, .rightBracket]
  | .slice start stop step => sliceTokens start stop step
  | .child left right =>
    bracketedTokens left.tightness 4 (left.tokens profile) ++ .dot ::
      bracketedTokens right.tightness 5 (right.tokens profile)
  | .descendants left right =>
    bracketedTokens left.tightness 3 (left.tokens profile) ++ .doubleDot ::
      bracketedTokens right.tightness 4 (right.tokens profile)
  | .whereSome left right =>
    bracketedTokens left.tightness 6 (left.tokens profile) ++ .whereSome ::
      bracketedTokens right.tightness 7 (right.tokens profile)
  | .whereNone left right =>
    bracketedTokens left.tightness 6 (left.tokens profile) ++ .whereNone ::
      bracketedTokens right.tightness 7 (right.tokens profile)
  | .union alternatives => unionTokens profile alternatives
  | .filter _ => []
  | .sort _ => []
  | .arithmetic _ _ _ => []
  | .named _ => []

def unionTokens (profile : Profile) : List Path → List Token
  | [] => []
  | [p] => bracketedTokens p.tightness 6 (p.tokens profile)
  | p :: rest =>
    bracketedTokens p.tightness 6 (p.tokens profile) ++ .pipe :: unionTokens profile rest
end

-- The paths with these operators whose names are legible. The first alternative of a union is no union,
-- since the two would be one.
inductive Path.Plain (profile : Profile) : Path → Prop where
  | root : Plain profile .root
  | this : Plain profile .this
  | parent : Plain profile .parent
  | wildcard : Plain profile .wildcard
  | fields (first : String) (others : List String)
      (legible : ∀ name ∈ first :: others, Legible profile name) :
      Plain profile (.fields (first :: others))
  | index (i : Int64) : Plain profile (.index i)
  | slice (start stop step : Option Int64) (moves : step ≠ some 0) :
      Plain profile (.slice start stop step)
  | child (left right : Path) (isLeft : Plain profile left) (isRight : Plain profile right) :
      Plain profile (.child left right)
  | descendants (left right : Path) (isLeft : Plain profile left) (isRight : Plain profile right) :
      Plain profile (.descendants left right)
  | whereSome (left right : Path) (isLeft : Plain profile left) (isRight : Plain profile right) :
      Plain profile (.whereSome left right)
  | whereNone (left right : Path) (isLeft : Plain profile left) (isRight : Plain profile right) :
      Plain profile (.whereNone left right)
  | union (first second : Path) (others : List Path)
      (apart : ∀ alternatives, first ≠ .union alternatives)
      (plain : ∀ p ∈ first :: second :: others, Plain profile p) :
      Plain profile (.union (first :: second :: others))

variable {profile : Profile} {name : String} {left right text : String}
  {leftTokens rightTokens tokens : List Token} {p : Path} {tightness least : Nat}

-- A text that is read as these tokens whatever stands behind it, as long as no name goes on there. It
-- starts with no point, for which a point before it would make another token.
structure Readable (profile : Profile) (text : String) (tokens : List Token) : Prop where
  reads : ∀ rest : List Char, (∀ c ∈ rest.head?, Token.isNamePart c = false) →
    Reads profile (text.toList ++ rest) tokens rest
  starts : ∃ c more, text.toList = c :: more ∧ c ≠ '.'

theorem readable_name (written : needsQuotes name = true ∨ ReadBare profile name) :
    Readable profile (fieldText name) [nameToken profile name] := by
  unfold fieldText nameToken
  by_cases quotes : needsQuotes name = true
  · rw [if_pos quotes, if_pos quotes]
    refine ⟨fun rest _ => ?_, ⟨'\'', _, String.toList_ofList, by decide⟩⟩
    have read : Reads profile ('\'' :: (name.toList.flatMap escapeQuoted ++ '\'' :: rest)) _ rest :=
      .quoted
    simpa using read
  · rw [if_neg quotes, if_neg quotes]
    obtain ⟨c, word, same, solid, starts, inside⟩ :=
      readBare_word (written.resolve_left quotes) (by simpa using quotes)
    rw [same]
    refine ⟨fun rest ends => ?_, ⟨c, word, same, ?_⟩⟩
    · rw [same]
      exact Reads.name solid starts inside ends
    · rintro rfl
      revert starts
      decide

-- Between two marks stands what is read up to the second one.
theorem readable_enclosed {before behind : String} {opening closing : Char} {opens closes : Token}
    (isBefore : before.toList = [opening]) (isBehind : behind.toList = [closing])
    (isOpening : Token.ofMark? opening = some opens) (isClosing : Token.ofMark? closing = some closes)
    (inner : ∀ rest, Reads profile (text.toList ++ closing :: rest) tokens (closing :: rest)) :
    Readable profile (before ++ text ++ behind) (opens :: (tokens ++ [closes])) := by
  refine ⟨fun rest _ => ?_, ⟨opening, text.toList ++ [closing], by simp [isBefore, isBehind], ?_⟩⟩
  · have first : Reads profile (opening :: (text.toList ++ closing :: rest)) [opens] _ := .mark isOpening
    have last : Reads profile (closing :: rest) [closes] rest := .mark isClosing
    simpa [isBefore, isBehind] using first.cons ((inner rest).append last)
  · rintro rfl
    cases isOpening

theorem readable_brackets
    (inner : ∀ rest, Reads profile (text.toList ++ ']' :: rest) tokens (']' :: rest)) :
    Readable profile ("[" ++ text ++ "]") (.leftBracket :: (tokens ++ [.rightBracket])) :=
  readable_enclosed rfl rfl rfl rfl inner

theorem readable_parens
    (inner : ∀ rest, Reads profile (text.toList ++ ')' :: rest) tokens (')' :: rest)) :
    Readable profile ("(" ++ text ++ ")") (.leftParen :: (tokens ++ [.rightParen])) :=
  readable_enclosed rfl rfl rfl rfl inner

theorem readable_bracketed (readable : Readable profile text tokens) :
    Readable profile (bracketed tightness least text) (bracketedTokens tightness least tokens) := by
  unfold bracketed bracketedTokens
  split
  · exact readable_parens fun rest => readable.reads (')' :: rest) (by simp; decide)
  · exact readable

-- A word between blanks.
theorem reads_word {rest : List Char} (more : List Char) (inside : more.all Token.isNamePart = true) :
    Reads profile (' ' :: 'w' :: (more ++ ' ' :: rest)) [Token.ofWord profile ('w' :: more)] rest := by
  have space : CharClass.isBlank ' ' = true := by decide
  have ends : ∀ d ∈ (' ' :: rest).head?, Token.isNamePart d = false := by
    intro d here
    cases here
    decide
  have name : Reads profile ('w' :: (more ++ ' ' :: rest)) _ (' ' :: rest) :=
    .name (by decide) (by decide) (List.all_eq_true.mp inside) ends
  exact .blank _ _ _ _ space (name.append (.blank _ _ _ _ space (.done _)))

theorem reads_symbol {rest : List Char} (operator : Infix) (single : rest.head? ≠ some '.') :
    Reads profile (operator.symbol.toList ++ rest) [operator.token] rest := by
  cases operator with
  | descendants => exact .doubleDot
  | child => exact .dot single
  | union => exact .mark rfl
  | whereSome => exact reads_word "here".toList (by decide)
  | whereNone => exact reads_word "herenot".toList (by decide)

theorem readable_binary (operator : Infix) (before : Readable profile left leftTokens)
    (behind : Readable profile right rightTokens) :
    Readable profile (left ++ operator.symbol ++ right)
      (leftTokens ++ operator.token :: rightTokens) := by
  obtain ⟨c, more, same, plain⟩ := behind.starts
  obtain ⟨c', more', same', plain'⟩ := before.starts
  refine ⟨fun rest ends => ?_, ⟨c', more' ++ (operator.symbol ++ right).toList, ?_, plain'⟩⟩
  · have parted : ∀ d ∈ (operator.symbol.toList ++ (right.toList ++ rest)).head?,
        Token.isNamePart d = false := by
      cases operator
      all_goals
        intro d here
        cases here
        decide
    have sign : Reads profile _ [operator.token] (right.toList ++ rest) :=
      reads_symbol operator (by simpa [same] using plain)
    simpa using (before.reads _ parted).append (sign.cons (behind.reads rest ends))
  · simp [same']

theorem readable_fields {first : String} {others : List String}
    (written : ∀ name ∈ first :: others, needsQuotes name = true ∨ ReadBare profile name) :
    Readable profile (commaSeparated ((first :: others).map fieldText))
      (fieldTokens profile (first :: others)) := by
  induction others generalizing first with
  | nil => exact readable_name (written first List.mem_cons_self)
  | cons second others ih =>
    have before := readable_name (written first List.mem_cons_self)
    have behind := ih fun name here => written name (List.mem_cons_of_mem first here)
    obtain ⟨c, more, same, plain⟩ := before.starts
    refine ⟨fun rest ends => ?_,
      ⟨c, more ++ ',' :: (commaSeparated ((second :: others).map fieldText)).toList, ?_, plain⟩⟩
    · have name := before.reads (',' :: ((commaSeparated ((second :: others).map fieldText)).toList ++ rest))
        (by simp; decide)
      have comma : ∀ chars, Reads profile (',' :: chars) [.comma] chars := fun _ => .mark rfl
      simpa [commaSeparated, fieldTokens] using name.append ((comma _).cons (behind.reads rest ends))
    · simp [commaSeparated, same]

theorem reads_bound {rest : List Char} (bound : Option Int64)
    (ends : ∀ d ∈ rest.head?, CharClass.isDigit d = false) (whole : rest.head? ≠ some '.') :
    Reads profile ((boundText bound).toList ++ rest) (boundTokens bound) rest := by
  cases bound with
  | none => exact .done rest
  | some n => exact .integer n ends whole

theorem sliceText_eq {start stop step : Option Int64}
    (bounded : ¬(start = none ∧ stop = none ∧ step = none)) : sliceText start stop step =
      "[" ++ (boundText start ++ ":" ++ boundText stop ++
        if step.isSome then ":" ++ boundText step else "") ++ "]" := by
  apply String.toList_inj.mp
  cases start <;> cases stop <;> cases step
  all_goals first
    | exact absurd ⟨rfl, rfl, rfl⟩ bounded
    | simp [sliceText, boundText]

theorem sliceTokens_eq {start stop step : Option Int64}
    (bounded : ¬(start = none ∧ stop = none ∧ step = none)) : sliceTokens start stop step =
      .leftBracket ::
        (boundTokens start ++ .colon :: (boundTokens stop ++ stepTokens step) ++ [.rightBracket]) := by
  cases start <;> cases stop <;> cases step
  all_goals first
    | exact absurd ⟨rfl, rfl, rfl⟩ bounded
    | rfl

theorem readable_slice (start stop step : Option Int64) :
    Readable profile (sliceText start stop step) (sliceTokens start stop step) := by
  by_cases bounded : start = none ∧ stop = none ∧ step = none
  · obtain ⟨rfl, rfl, rfl⟩ := bounded
    have star : ∀ rest, Reads profile ("*".toList ++ ']' :: rest) [.star] (']' :: rest) := fun _ => .mark rfl
    exact readable_brackets star
  · rw [sliceText_eq bounded, sliceTokens_eq bounded]
    refine readable_brackets fun rest => ?_
    have colon : ∀ chars, Reads profile (':' :: chars) [.colon] chars := fun _ => .mark rfl
    have bound : ∀ bound next chars, next = ':' ∨ next = ']' →
        Reads profile ((boundText bound).toList ++ next :: chars) (boundTokens bound) (next :: chars) := by
      rintro bound next chars (rfl | rfl)
      all_goals exact reads_bound bound (by simp; decide) (by simp)
    have first := fun chars => (bound start ':' chars (.inl rfl)).append (colon chars)
    cases step with
    | none => simpa [stepTokens] using (first _).append (bound stop ']' rest (.inr rfl))
    | some step =>
      have second := fun chars => (bound stop ':' chars (.inl rfl)).append (colon chars)
      have third := bound (some step) ']' rest (.inr rfl)
      simpa [stepTokens, boundTokens] using (first _).append ((second _).append third)

theorem readable_operator (word : String) (noQuote : '`' ∉ word.toList)
    (noEscape : '\\' ∉ word.toList) :
    Readable profile ("`" ++ word ++ "`") [.namedOperator word] := by
  refine ⟨fun rest _ => ?_, ⟨'`', word.toList ++ ['`'], by simp, by decide⟩⟩
  have read : Reads profile ('`' :: (word.toList ++ '`' :: rest)) _ rest := .operator noQuote noEscape
  simpa using read

theorem readable_union {first : Path} {others : List Path}
    (readable : ∀ p ∈ first :: others, Readable profile p.text (p.tokens profile)) :
    Readable profile (unionText (first :: others)) (unionTokens profile (first :: others)) := by
  induction others generalizing first with
  | nil =>
    rw [unionText, unionTokens]
    exact readable_bracketed (readable first List.mem_cons_self)
  | cons second others ih =>
    have before : Readable profile (bracketed first.tightness 6 first.text) _ :=
      readable_bracketed (readable first List.mem_cons_self)
    have behind := ih fun p here => readable p (List.mem_cons_of_mem first here)
    exact readable_binary .union before behind

-- The text of a path has the tokens of the path.
theorem readable_text (plain : Path.Plain profile p) : Readable profile p.text (p.tokens profile) := by
  induction plain with
  | root => exact ⟨fun rest _ => .mark rfl, ⟨'$', [], rfl, by decide⟩⟩
  | this => exact readable_operator "this" (by decide) (by decide)
  | parent => exact readable_operator "parent" (by decide) (by decide)
  | wildcard => exact ⟨fun rest _ => .mark rfl, ⟨'*', [], rfl, by decide⟩⟩
  | fields first others legible => exact readable_fields fun name here => (legible name here).2
  | index i => exact readable_brackets fun rest => .integer i (by simp; decide) (by simp)
  | slice start stop step moves => exact readable_slice start stop step
  | child left right isLeft isRight ihLeft ihRight =>
    exact readable_binary .child (readable_bracketed ihLeft) (readable_bracketed ihRight)
  | descendants left right isLeft isRight ihLeft ihRight =>
    exact readable_binary .descendants (readable_bracketed ihLeft) (readable_bracketed ihRight)
  | whereSome left right isLeft isRight ihLeft ihRight =>
    exact readable_binary .whereSome (readable_bracketed ihLeft) (readable_bracketed ihRight)
  | whereNone left right isLeft isRight ihLeft ihRight =>
    exact readable_binary .whereNone (readable_bracketed ihLeft) (readable_bracketed ihRight)
  | union first second others apart plain ih => exact readable_union ih

end TreePath
