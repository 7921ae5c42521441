import TreePath.Path.Text
import TreePath.Proofs.Path.ComputedRules
import TreePath.Proofs.Token.Words
namespace TreePath

-- A text is a number with a fraction, as the language writes it, and this is the nearest double.
def FloatText.ReadsBack (text : List Char) (x : Float) : Prop :=
  ∃ negative whole fraction, text = (if negative then ['-'] else []) ++ (whole ++ '.' :: fraction) ∧
    whole ≠ [] ∧ fraction ≠ [] ∧ (∀ d ∈ whole, CharClass.isDigit d = true) ∧
    (∀ d ∈ fraction, CharClass.isDigit d = true) ∧ Token.realOf negative whole fraction = x

variable {profile : Profile} {rest whole fraction : List Char} {c : Char} {s : String} {x : Float}

namespace Reads

-- Between double quotation marks control characters are written as they could not be read back.
theorem json_string (visible : ∀ c ∈ s.toList, CharClass.isControl c = false) :
    Reads profile ((Value.quote s).toList ++ rest) [.identifier s] rest := by
  have spelled : ∀ c ∈ s.toList, Value.escapeChar c = if c = '"' ∨ c = '\\' then ['\\', c] else [c] := by
    intro c here
    have apart : ∀ d, CharClass.isControl d = true → c ≠ d := by
      rintro d control rfl
      rw [visible c here] at control
      cases control
    unfold Value.escapeChar
    by_cases isQuote : c = '"'
    · rw [if_pos isQuote, if_pos (.inl isQuote), isQuote]
    by_cases isEscape : c = '\\'
    · rw [if_neg isQuote, if_pos isEscape, if_pos (.inr isEscape), isEscape]
    rw [if_neg isQuote, if_neg isEscape, if_neg (apart _ (by decide)), if_neg (apart _ (by decide)),
      if_neg (apart _ (by decide)), visible c here, if_neg (by decide), if_neg (not_or.mpr ⟨isQuote, isEscape⟩)]
  have read : Reads profile ('"' :: (s.toList.flatMap Value.escapeChar ++ '"' :: rest))
      [.identifier (String.ofList s.toList)] rest := quoted_spelled (.inl rfl) spelled
  simpa [Value.quote] using read

theorem scanNumber_point {negative : Bool} (nonempty : fraction ≠ [])
    (inside : ∀ d ∈ whole, CharClass.isDigit d = true) (digits : ∀ d ∈ fraction, CharClass.isDigit d = true)
    (ends : ∀ d ∈ rest.head?, CharClass.isDigit d = false) :
    Token.scanNumber .extended negative (whole ++ '.' :: (fraction ++ rest)) =
      .ok ⟨.real (Token.realOf negative whole fraction),
        (if negative then ['-'] else []) ++ whole ++ '.' :: fraction, rest⟩ := by
  have point : ∀ d ∈ ('.' :: (fraction ++ rest)).head?, CharClass.isDigit d = false := by
    intro d here
    cases here
    decide
  have found : Token.scanFraction .extended ('.' :: (fraction ++ rest)) = some (fraction, rest) := by
    rw [Token.scanFraction_behind, takeWhile_run digits ends, dropWhile_run digits ends]
    simp [Profile.isExtended, nonempty]
  unfold Token.scanNumber
  rw [takeWhile_run inside point, dropWhile_run inside point]
  dsimp only
  rw [found]

theorem real {text : List Char} (back : FloatText.ReadsBack text x)
    (ends : ∀ d ∈ rest.head?, CharClass.isDigit d = false) : Reads .extended (text ++ rest) [.real x] rest := by
  obtain ⟨negative, whole, fraction, rfl, nonempty, nonempty', inside, digits, rfl⟩ := back
  obtain ⟨d, others, rfl⟩ := List.exists_cons_of_ne_nil nonempty
  have digit := inside d List.mem_cons_self
  have found := @scanNumber_point rest (d :: others) fraction negative nonempty' inside digits ends
  have text : (if negative then ['-'] else []) ++ (d :: others ++ '.' :: fraction) ++ rest =
      (if negative then ['-'] else []) ++ d :: (others ++ '.' :: (fraction ++ rest)) := by
    simp
  rw [text]
  cases negative with
  | true => exact .token '-' _ _ [] rest (by decide) ((Token.scan_minus digit).trans found) (.done rest)
  | false =>
    exact .token d _ _ [] rest (CharClass.isBlank_of_isDigit digit) ((Token.scan_digit digit).trans found) (.done rest)

theorem blanks {symbol : List Char} {token : Token} (c : Char) (scans : ∀ rest, ∃ text,
    Token.scan profile c (symbol ++ ' ' :: rest) = .ok ⟨token, text, ' ' :: rest⟩)
    (solid : CharClass.isBlank c = false) :
    Reads profile (' ' :: c :: (symbol ++ ' ' :: rest)) [token] rest := by
  have space : CharClass.isBlank ' ' = true := by decide
  obtain ⟨text, found⟩ := scans rest
  exact .blank _ _ _ _ space (.token c _ ⟨token, text, ' ' :: rest⟩ [] rest solid found
    (.blank _ _ _ _ space (.done rest)))

theorem comparison (operator : CompareOperator) :
    Reads .extended (' ' :: (operator.symbol.toList ++ ' ' :: rest)) [operator.token] rest := by
  cases operator with
  | equal => exact blanks '=' (fun _ => ⟨_, rfl⟩) (by decide)
  | less => exact blanks '<' (fun _ => ⟨_, rfl⟩) (by decide)
  | greater => exact blanks '>' (fun _ => ⟨_, rfl⟩) (by decide)
  | notEqual => exact @blanks .extended _ ['='] _ '!' (fun _ => ⟨_, rfl⟩) (by decide)
  | lessEqual => exact @blanks .extended _ ['='] _ '<' (fun _ => ⟨_, rfl⟩) (by decide)
  | greaterEqual => exact @blanks .extended _ ['='] _ '>' (fun _ => ⟨_, rfl⟩) (by decide)
  | matching => exact @blanks .extended _ ['~'] _ '=' (fun _ => ⟨_, rfl⟩) (by decide)

theorem arithmetic (operator : ArithmeticOperator) :
    Reads .extended (' ' :: (operator.symbol.toList ++ ' ' :: rest)) [operator.token] rest := by
  cases operator with
  | add => exact blanks '+' (fun _ => ⟨_, rfl⟩) (by decide)
  | multiply => exact blanks '*' (fun _ => ⟨_, rfl⟩) (by decide)
  | divide => exact blanks '/' (fun _ => ⟨_, rfl⟩) (by decide)

theorem ampersand : Reads .extended (' ' :: '&' :: ' ' :: rest) [.ampersand] rest :=
  @blanks .extended _ [] _ '&' (fun _ => ⟨_, rfl⟩) (by decide)

theorem direction (direction : Direction) :
    Reads .extended (direction.symbol.toList ++ rest) [direction.token] rest := by
  cases direction with
  | ascending => exact .token '/' rest ⟨.slash, ['/'], rest⟩ [] rest (by decide) rfl (.done rest)
  | descending => exact .token '\\' rest ⟨.backslash, ['\\'], rest⟩ [] rest (by decide) rfl (.done rest)

theorem question : Reads .extended ('?' :: rest) [.question] rest :=
  .token '?' rest ⟨.question, ['?'], rest⟩ [] rest (by decide) rfl (.done rest)

theorem boolean (b : Bool) (ends : ∀ d ∈ rest.head?, Token.isNamePart d = false) :
    Reads .extended ((if b then "true" else "false").toList ++ rest) [.boolean b] rest := by
  cases b with
  | true => exact @name .extended "rue".toList rest 't' (by decide) (by decide) (List.all_eq_true.mp (by decide)) ends
  | false => exact @name .extended "alse".toList rest 'f' (by decide) (by decide) (List.all_eq_true.mp (by decide)) ends

end Reads
end TreePath
