import TreePath.Proofs.Token.Words
namespace TreePath

variable {profile : Profile} {text middle rest said digits tail : List Char} {tokens : List Token}
  {scanned : Token.Scanned} {negative : Bool} {c quote : Char} {holds : Char → Bool}

-- A run of characters ends before a bracket as it ends with the text.
theorem takeWhile_closing (ends : holds ']' = false) :
    (text ++ ']' :: tail).takeWhile holds = text.takeWhile holds := by
  induction text with
  | nil => simp [ends]
  | cons c text ih =>
    rw [List.cons_append, List.takeWhile_cons, List.takeWhile_cons, ih]

theorem dropWhile_closing (ends : holds ']' = false) :
    (text ++ ']' :: tail).dropWhile holds = text.dropWhile holds ++ ']' :: tail := by
  induction text with
  | nil => simp [ends]
  | cons c text ih =>
    rw [List.cons_append, List.dropWhile_cons, List.dropWhile_cons, ih]
    split <;> rfl

namespace Token

theorem scanQuoted_closing (found : scanQuoted quote text = some (said, middle, rest)) :
    scanQuoted quote (text ++ tail) = some (said, middle, rest ++ tail) := by
  obtain ⟨parts, read⟩ := scanQuoted_split found
  rw [parts, List.append_assoc, read]

theorem scanFraction_closing : scanFraction profile (text ++ ']' :: tail) =
    (scanFraction profile text).map fun (digits, rest) => (digits, rest ++ ']' :: tail) := by
  have noDigit : CharClass.isDigit ']' = false := by decide
  cases text with
  | nil => rfl
  | cons c text =>
    by_cases point : c = '.'
    · rw [point, List.cons_append, scanFraction_behind, scanFraction_behind, takeWhile_closing noDigit,
        dropWhile_closing noDigit]
      split <;> rfl
    · have plain : ∀ behind, scanFraction profile (c :: behind) = none :=
        fun behind => scanFraction_plain fun same => point (Option.some.inj same)
      rw [List.cons_append, plain, plain]
      rfl

theorem scanNumber_closing (found : scanNumber profile negative text = .ok scanned) :
    scanNumber profile negative (text ++ ']' :: tail) =
      .ok ⟨scanned.token, scanned.text, scanned.rest ++ ']' :: tail⟩ := by
  have noDigit : CharClass.isDigit ']' = false := by decide
  unfold scanNumber at found ⊢
  dsimp only at found ⊢
  rw [takeWhile_closing noDigit, dropWhile_closing noDigit, scanFraction_closing]
  split at found
  · rename_i point
    cases found
    rw [point]
    rfl
  · rename_i point
    rw [point]
    dsimp only [Option.map_none]
    split at found
    · rename_i value
      cases found
      rfl
    · cases found

theorem scanOperator_closing (found : scanOperator c text = .ok scanned) :
    scanOperator c (text ++ ']' :: tail) = .ok ⟨scanned.token, scanned.text, scanned.rest ++ ']' :: tail⟩ := by
  have within : ∀ d rest, d ≠ ']' → (∀ behind, text = d :: behind → False) →
      text ++ ']' :: tail ≠ d :: rest := by
    intro d rest other absent same
    cases text with
    | nil => exact other (List.cons.inj same).1.symm
    | cons c text => exact absent text (congrArg (· :: text) (List.cons.inj same).1)
  unfold scanOperator at found
  split at found
  all_goals cases found
  all_goals first | rfl | skip
  -- What is left are the marks behind which an equals sign or a tilde would have made another mark.
  case h_7 noEqual noTilde =>
    exact scanOperator.eq_7 _ (within _ · (by decide) noEqual) (within _ · (by decide) noTilde)
  case h_10 noEqual => exact scanOperator.eq_10 _ (within _ · (by decide) noEqual)
  case h_12 noEqual => exact scanOperator.eq_12 _ (within _ · (by decide) noEqual)

-- A token in front of a closing bracket is the token that it is at the end of the text.
theorem scan_closing (found : scan profile c text = .ok scanned) :
    scan profile c (text ++ ']' :: tail) = .ok ⟨scanned.token, scanned.text, scanned.rest ++ ']' :: tail⟩ := by
  unfold scan at found ⊢
  split at found
  · cases found
    rfl
  dsimp only
  by_cases isDot : c = '.'
  · rw [if_pos isDot] at found ⊢
    cases text with
    | nil =>
      cases found
      rfl
    | cons d text =>
      split at found
      · rename_i same
        cases same
        cases found
        rfl
      · rename_i single
        cases found
        rw [List.cons_append]
        split
        · rename_i same
          exact absurd (congrArg (· :: text) (List.cons.inj same).1) (single text)
        · rfl
  rw [if_neg isDot] at found ⊢
  by_cases isQuote : c = '"' ∨ c = '\'' ∨ c = '`'
  · rw [if_pos isQuote] at found ⊢
    split at found
    · cases found
    · rename_i quoted
      cases found
      rw [scanQuoted_closing quoted]
  rw [if_neg isQuote] at found ⊢
  by_cases isMinus : c = '-'
  · rw [if_pos isMinus] at found ⊢
    cases text with
    | nil => cases found
    | cons d text =>
      rw [List.cons_append]
      dsimp only at found ⊢
      split at found
      · rename_i digit
        rw [if_pos digit]
        exact scanNumber_closing found
      · cases found
  rw [if_neg isMinus] at found ⊢
  by_cases isDigit : CharClass.isDigit c = true
  · rw [if_pos isDigit] at found ⊢
    exact scanNumber_closing found
  rw [if_neg isDigit] at found ⊢
  by_cases isName : isNameStart c = true
  · rw [if_pos isName] at found ⊢
    cases found
    rw [takeWhile_closing (by decide), dropWhile_closing (by decide)]
  rw [if_neg isName] at found ⊢
  split at found
  · rename_i extended
    rw [if_pos extended]
    exact scanOperator_closing found
  · cases found

end Token

-- The tokens of a whole text are also read in front of a closing bracket.
theorem Reads.closing (read : Reads profile text tokens []) :
    Reads profile (text ++ ']' :: tail) tokens (']' :: tail) := by
  generalize behind : ([] : List Char) = rest at read
  induction read with
  | done rest =>
    subst behind
    exact .done _
  | blank c text tokens rest isBlank later ih => exact .blank c _ _ _ isBlank (ih behind)
  | token c text scanned tokens rest solid found later ih =>
    exact .token c _ ⟨scanned.token, scanned.text, scanned.rest ++ ']' :: tail⟩ _ _ solid
      (Token.scan_closing found) (ih behind)

end TreePath
