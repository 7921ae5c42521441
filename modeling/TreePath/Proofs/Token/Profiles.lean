import TreePath.Proofs.Token.Reading
namespace TreePath

variable {text : List Char} {c : Char} {scanned : Token.Scanned} {token : Token} {turns : Nat}
  {position last : Position}

namespace Token

-- Tokens of the core grammar, without the name that the extended grammar has a meaning for.
def Shared : Token → Prop
  | identifier name => name ≠ "@"
  | real _ | boolean _ | question | plus | slash | backslash => False
  | equal | doubleEqual | notEqual | less | lessEqual | greater | greaterEqual | matching => False
  | _ => True

-- What the extended grammar reads where the core grammar reads a token: the same token, a truth value for
-- the name of one, or a fraction where the core grammar reads the number before its point.
inductive Widened (scanned : Scanned) : Except LexFault Scanned → Prop where
  | same (shared : scanned.token ≠ identifier "@" → scanned.token.Shared) :
      Widened scanned (.ok scanned)
  | truth (b : Bool) (named : scanned.token = identifier (booleanText b)) :
      Widened scanned (.ok { scanned with token := boolean b })
  | fraction (n : Int64) (x : Float) (d : Char) (digits written after : List Char)
      (isNumber : scanned.token = number n) (point : scanned.rest = '.' :: d :: digits)
      (digit : CharClass.isDigit d = true) : Widened scanned (.ok ⟨real x, written, after⟩)

theorem ofMark?_shared (mark : ofMark? c = some token) : token.Shared := by
  unfold ofMark? at mark
  split at mark
  all_goals
    cases mark
    try trivial

theorem ofWord_widened (word behind : List Char) : Widened ⟨ofWord .core word, word, behind⟩
    (.ok ⟨ofWord .extended word, word, behind⟩) := by
  unfold ofWord Profile.isExtended
  simp only [Bool.false_and, Bool.true_and, beq_iff_eq, Bool.false_eq_true, if_false]
  split
  · exact .same fun _ => trivial
  split
  · exact .same fun _ => trivial
  split
  · rename_i yes
    exact .truth true (congrArg identifier yes)
  split
  · rename_i no
    exact .truth false (congrArg identifier no)
  · exact .same fun other name => other (congrArg identifier name)

theorem scanFraction_core : scanFraction .core text = none := by
  unfold scanFraction
  split <;> rfl

theorem scanFraction_point {parts : List Char × List Char}
    (found : scanFraction .extended text = some parts) :
    ∃ d digits, text = '.' :: d :: digits ∧ CharClass.isDigit d = true := by
  unfold scanFraction at found
  split at found
  · rename_i behind
    split at found
    · rename_i digits
      cases behind with
      | nil => cases digits
      | cons d behind =>
        cases digit : CharClass.isDigit d with
        | true => exact ⟨d, behind, rfl, digit⟩
        | false => simp [digit] at digits
    · cases found
  · cases found

theorem scanNumber_widened {negative : Bool} (found : scanNumber .core negative text = .ok scanned) :
    Widened scanned (scanNumber .extended negative text) := by
  unfold scanNumber at found ⊢
  dsimp only at found ⊢
  rw [scanFraction_core] at found
  dsimp only at found
  split at found
  · rename_i n value
    cases found
    cases point : scanFraction .extended (text.dropWhile CharClass.isDigit) with
    | none => exact .same fun _ => trivial
    | some parts =>
      obtain ⟨d, digits, same, digit⟩ := scanFraction_point point
      exact .fraction n _ d digits _ _ rfl same digit
  · cases found

theorem scan_widened (found : scan .core c text = .ok scanned) :
    Widened scanned (scan .extended c text) := by
  unfold scan at found ⊢
  split at found
  · rename_i mark
    cases found
    exact .same fun _ => ofMark?_shared mark
  dsimp only
  by_cases isDot : c = '.'
  · rw [if_pos isDot] at found ⊢
    split at found
    all_goals
      cases found
      exact .same fun _ => trivial
  rw [if_neg isDot] at found ⊢
  by_cases isQuote : c = '"' ∨ c = '\'' ∨ c = '`'
  · rw [if_pos isQuote] at found ⊢
    split at found
    · cases found
    · cases found
      by_cases isBacktick : c = '`'
      · rw [if_pos isBacktick]
        exact .same fun _ => trivial
      · rw [if_neg isBacktick]
        exact .same fun other name => other (congrArg identifier name)
  rw [if_neg isQuote] at found ⊢
  by_cases isMinus : c = '-'
  · rw [if_pos isMinus] at found ⊢
    split at found
    · split at found
      · rename_i digit
        rw [if_pos digit]
        exact scanNumber_widened found
      · cases found
    · cases found
  rw [if_neg isMinus] at found ⊢
  by_cases isDigit : CharClass.isDigit c = true
  · rw [if_pos isDigit] at found ⊢
    exact scanNumber_widened found
  rw [if_neg isDigit] at found ⊢
  split at found
  · rename_i isName
    cases found
    rw [if_pos isName]
    exact ofWord_widened _ _
  · cases found

theorem Widened.shared {result : Except LexFault Scanned} (widened : Widened scanned result)
    (other : scanned.token ≠ identifier "@") : scanned.token.Shared := by
  cases widened with
  | same shared => exact shared other
  | truth b named =>
    rw [named] at other ⊢
    exact fun self => other (congrArg identifier self)
  | fraction n x d digits written after isNumber =>
    rw [isNumber]
    trivial

end Token

theorem shared_scanFrom :
    ∀ lexeme ∈ (TokenStream.scanFrom .core turns position text).lexemes,
      lexeme.token ≠ .identifier "@" → lexeme.token.Shared := by
  induction turns generalizing text position with
  | zero => simp [TokenStream.scanFrom]
  | succ turns ih =>
    cases text with
    | nil => simp [TokenStream.scanFrom]
    | cons c text =>
      rw [TokenStream.scanFrom]
      by_cases isBlank : CharClass.isBlank c = true
      · rw [if_pos isBlank]
        exact ih
      rw [if_neg isBlank]
      cases found : Token.scan .core c text with
      | error fault => simp
      | ok scanned =>
        intro lexeme here
        rcases List.mem_cons.mp here with rfl | later
        · exact (Token.scan_widened found).shared
        · exact ih lexeme later

-- The tokens of one text in the core and in the extended grammar, whose reading stops as given, up to the
-- first fraction.
inductive Alike (stop : Stop) : List Lexeme → List Lexeme → Prop where
  | ended (last : Position) (stopped : stop = .endOfText last) : Alike stop [] []
  | same (lexeme : Lexeme) (rest rest' : List Lexeme) (shared : lexeme.token.Shared)
      (later : Alike stop rest rest') : Alike stop (lexeme :: rest) (lexeme :: rest')
  | truth (b : Bool) (position : Position) (text : List Char) (rest rest' : List Lexeme)
      (later : Alike stop rest rest') :
      Alike stop (⟨.identifier (Token.booleanText b), position, text⟩ :: rest)
        (⟨.boolean b, position, text⟩ :: rest')
  | fraction (n : Int64) (x : Float) (position place : Position) (text point written : List Char)
      (rest rest' : List Lexeme) :
      Alike stop (⟨.number n, position, text⟩ :: ⟨.dot, place, point⟩ :: rest)
        (⟨.real x, position, written⟩ :: rest')

theorem scanFrom_point {profile : Profile} {d : Char} (digit : CharClass.isDigit d = true) :
    (TokenStream.scanFrom profile (turns + 1) position ('.' :: d :: text)).lexemes =
      ⟨.dot, position, ['.']⟩ ::
        (TokenStream.scanFrom profile turns (position.after ['.']) (d :: text)).lexemes := by
  have single : Token.scan profile '.' (d :: text) = .ok ⟨.dot, ['.'], d :: text⟩ := by
    have noDot : d ≠ '.' := by
      rintro rfl
      revert digit
      decide
    unfold Token.scan
    rw [show Token.ofMark? '.' = none from rfl]
    dsimp only
    rw [if_pos rfl]
    split
    · rename_i same
      exact absurd (List.cons.inj same).1 noDot
    · rfl
  rw [TokenStream.scanFrom, if_neg (by decide), single]

theorem alike_scanFrom (enough : text.length < turns)
    (stopped : (TokenStream.scanFrom .core turns position text).stop = .endOfText last)
    (noSelf : ∀ lexeme ∈ (TokenStream.scanFrom .core turns position text).lexemes,
      lexeme.token ≠ .identifier "@") :
    Alike (TokenStream.scanFrom .extended turns position text).stop
      (TokenStream.scanFrom .core turns position text).lexemes
      (TokenStream.scanFrom .extended turns position text).lexemes := by
  induction turns generalizing text position with
  | zero => cases enough
  | succ turns ih =>
    cases text with
    | nil => exact .ended position rfl
    | cons c text =>
      rw [TokenStream.scanFrom] at stopped noSelf
      rw [TokenStream.scanFrom, TokenStream.scanFrom]
      by_cases isBlank : CharClass.isBlank c = true
      · simp only [if_pos isBlank] at stopped noSelf ⊢
        exact ih (by simpa using enough) stopped noSelf
      simp only [if_neg isBlank] at stopped noSelf ⊢
      cases found : Token.scan .core c text with
      | error fault =>
        rw [found] at stopped
        cases stopped
      | ok scanned =>
        rw [found] at stopped noSelf
        dsimp only at stopped noSelf ⊢
        have shorter := Token.scan_shortens found
        simp only [List.length_cons] at enough
        have later := @ih scanned.rest (position.after scanned.text) (by omega) stopped
          fun lexeme here => noSelf lexeme (List.mem_cons_of_mem _ here)
        have other := noSelf _ List.mem_cons_self
        have widened := Token.scan_widened found
        generalize Token.scan .extended c text = result at widened
        cases widened with
        | same shared => exact .same _ _ _ (shared other) later
        | truth b named =>
          dsimp only
          rw [named]
          exact .truth b _ _ _ _ later
        | fraction n x d digits written after isNumber point digit =>
          cases turns with
          | zero => omega
          | succ turns =>
            rw [point, scanFrom_point digit, isNumber]
            exact .fraction n x _ _ _ _ _ _ _

-- A text that the core grammar reads to its end, without the name that the extended grammar has a meaning
-- for.
theorem alike_ofText {text : String}
    (stopped : (TokenStream.ofText .core text).stop = .endOfText last)
    (noSelf : ∀ lexeme ∈ (TokenStream.ofText .core text).lexemes, lexeme.token ≠ .identifier "@") :
    Alike (TokenStream.ofText .extended text).stop (TokenStream.ofText .core text).lexemes
      (TokenStream.ofText .extended text).lexemes :=
  alike_scanFrom (Nat.lt_succ_self _) stopped noSelf

end TreePath
