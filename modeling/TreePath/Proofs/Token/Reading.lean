import TreePath.Token.Lexer
namespace TreePath

-- Reading a text token by token, with what stands behind the last of the tokens still to be read: a
-- name or a number may go on in it, so the tokens of two texts in a row are not those of each.
inductive Reads (profile : Profile) : List Char → List Token → List Char → Prop where
  | done (rest : List Char) : Reads profile rest [] rest
  | blank (c : Char) (text : List Char) (tokens : List Token) (rest : List Char)
      (isBlank : CharClass.isBlank c = true) (later : Reads profile text tokens rest) :
      Reads profile (c :: text) tokens rest
  | token (c : Char) (text : List Char) (scanned : Token.Scanned) (tokens : List Token)
      (rest : List Char) (solid : CharClass.isBlank c = false)
      (found : Token.scan profile c text = .ok scanned)
      (later : Reads profile scanned.rest tokens rest) :
      Reads profile (c :: text) (scanned.token :: tokens) rest

variable {profile : Profile} {text middle rest said digits : List Char} {tokens more : List Token}
  {scanned : Token.Scanned} {negative : Bool} {c quote : Char} {turns : Nat} {position : Position}

namespace Token

-- The characters that make the run are read whatever stands behind them.
theorem scanQuoted_split (found : scanQuoted quote text = some (said, middle, rest)) :
    text = middle ++ rest ∧
      ∀ behind, scanQuoted quote (middle ++ behind) = some (said, middle, behind) := by
  fun_induction scanQuoted quote text generalizing said middle rest with
  | case1 => cases found
  | case2 text =>
    cases found
    refine ⟨rfl, fun behind => ?_⟩
    rw [List.cons_append, scanQuoted.eq_def]
    exact if_pos rfl
  | case3 => cases found
  | case4 d text opens ih =>
    obtain ⟨⟨said', middle', rest'⟩, inner, same⟩ := Option.map_eq_some_iff.mp found
    cases same
    obtain ⟨parts, read⟩ := ih inner
    refine ⟨by rw [parts]; rfl, fun behind => ?_⟩
    rw [List.cons_append, List.cons_append, scanQuoted.eq_def]
    dsimp only
    rw [if_neg opens, if_pos rfl, read behind]
    rfl
  | case5 c text plain other ih =>
    obtain ⟨⟨said', middle', rest'⟩, inner, same⟩ := Option.map_eq_some_iff.mp found
    cases same
    obtain ⟨parts, read⟩ := ih inner
    refine ⟨by rw [parts]; rfl, fun behind => ?_⟩
    rw [List.cons_append, scanQuoted.eq_def]
    dsimp only
    rw [if_neg plain, if_neg other, read behind]
    rfl

theorem scanFraction_text (found : scanFraction profile text = some (digits, rest)) :
    '.' :: (digits ++ rest) = text := by
  unfold scanFraction at found
  split at found
  · split at found
    · cases found
      rw [List.takeWhile_append_dropWhile]
    · cases found
  · cases found

theorem scanNumber_text (digit : CharClass.isDigit c = true)
    (found : scanNumber profile negative (c :: text) = .ok scanned) :
    scanned.text ++ scanned.rest = (if negative then ['-'] else []) ++ c :: text ∧
      scanned.text ≠ [] := by
  have split := List.takeWhile_append_dropWhile (p := CharClass.isDigit) (l := c :: text)
  have whole : (c :: text).takeWhile CharClass.isDigit ≠ [] := by simp [digit]
  unfold scanNumber at found
  dsimp only at found
  cases point : scanFraction profile ((c :: text).dropWhile CharClass.isDigit) with
  | some parts =>
    obtain ⟨fraction, behind⟩ := parts
    rw [point] at found
    cases found
    rw [← scanFraction_text point] at split
    exact ⟨by simpa using split, by simp [whole]⟩
  | none =>
    rw [point] at found
    dsimp only at found
    generalize Integer.ofInt? _ = value at found
    cases value with
    | none => cases found
    | some n =>
      cases found
      exact ⟨by rw [List.append_assoc, split], by simp [whole]⟩

theorem scanOperator_text (found : scanOperator c text = .ok scanned) :
    scanned.text ++ scanned.rest = c :: text ∧ scanned.text ≠ [] := by
  unfold scanOperator at found
  split at found
  all_goals
    cases found
    try exact ⟨rfl, List.cons_ne_nil _ _⟩

-- A token is read from the characters at hand, and from one of them at least.
theorem scan_text (found : scan profile c text = .ok scanned) :
    scanned.text ++ scanned.rest = c :: text ∧ scanned.text ≠ [] := by
  unfold scan at found
  split at found
  · cases found
    exact ⟨rfl, List.cons_ne_nil _ _⟩
  split at found
  · split at found
    all_goals
      cases found
      exact ⟨rfl, List.cons_ne_nil _ _⟩
  split at found
  · split at found
    · cases found
    · rename_i quoted
      cases found
      exact ⟨congrArg (c :: ·) (scanQuoted_split quoted).1.symm, List.cons_ne_nil _ _⟩
  split at found
  · rename_i minus
    split at found
    · split at found
      · rename_i digit
        subst minus
        exact scanNumber_text digit found
      · cases found
    · cases found
  split at found
  · rename_i digit
    exact scanNumber_text digit found
  split at found
  · cases found
    exact ⟨congrArg (c :: ·) List.takeWhile_append_dropWhile, List.cons_ne_nil _ _⟩
  split at found
  · exact scanOperator_text found
  · cases found

theorem scan_shortens (found : scan profile c text = .ok scanned) :
    scanned.rest.length ≤ text.length := by
  obtain ⟨same, nonempty⟩ := scan_text found
  have lengths := congrArg List.length same
  have positive := List.length_pos_iff.mpr nonempty
  simp only [List.length_append, List.length_cons] at lengths
  omega

end Token

namespace Reads

theorem append (first : Reads profile text tokens middle) (second : Reads profile middle more rest) :
    Reads profile text (tokens ++ more) rest := by
  induction first with
  | done => exact second
  | blank c text tokens rest isBlank later ih => exact .blank _ _ _ _ isBlank (ih second)
  | token c text scanned tokens rest solid found later ih =>
    exact .token _ _ _ _ _ solid found (ih second)

-- One token, and what is read behind it.
theorem cons {token : Token} (first : Reads profile text [token] middle)
    (second : Reads profile middle more rest) : Reads profile text (token :: more) rest :=
  first.append second

-- What is read before a place is read alike when the text is read to its end.
theorem behind (first : Reads profile text tokens middle) (all : Reads profile text more []) :
    ∃ later, more = tokens ++ later ∧ Reads profile middle later [] := by
  induction first generalizing more with
  | done => exact ⟨more, rfl, all⟩
  | blank c text tokens rest isBlank later ih =>
    cases all with
    | blank _ _ _ _ _ all => exact ih all
    | token _ _ _ _ _ solid =>
      rw [isBlank] at solid
      cases solid
  | token c text scanned tokens rest solid found later ih =>
    cases all with
    | blank _ _ _ _ isBlank =>
      rw [isBlank] at solid
      cases solid
    | token _ _ again others _ _ foundAgain all =>
      cases found.symm.trans foundAgain
      obtain ⟨behind, rfl, read⟩ := ih all
      exact ⟨behind, rfl, read⟩

-- A text that is read to its end has these tokens.
theorem scanFrom (read : Reads profile text tokens []) (enough : text.length < turns) :
    (TokenStream.scanFrom profile turns position text).lexemes.map Lexeme.token = tokens ∧
      ∃ last, (TokenStream.scanFrom profile turns position text).stop = .endOfText last := by
  generalize finished : [] = rest at read
  induction read generalizing turns position with
  | done rest =>
    subst finished
    cases turns with
    | zero => cases enough
    | succ turns => exact ⟨rfl, position, rfl⟩
  | blank c text tokens rest isBlank later ih =>
    cases turns with
    | zero => cases enough
    | succ turns =>
      rw [TokenStream.scanFrom, if_pos isBlank]
      exact ih (by simpa using enough) finished
  | token c text scanned tokens rest solid found later ih =>
    cases turns with
    | zero => cases enough
    | succ turns =>
      have shorter := Token.scan_shortens found
      simp only [List.length_cons] at enough
      have inner := @ih turns (position.after scanned.text) (by omega) finished
      rw [TokenStream.scanFrom, if_neg (by simp [solid]), found]
      exact ⟨congrArg (scanned.token :: ·) inner.1, inner.2⟩

theorem of_scanFrom {last : Position} (enough : text.length < turns)
    (stopped : (TokenStream.scanFrom profile turns position text).stop = .endOfText last) :
    Reads profile text
      ((TokenStream.scanFrom profile turns position text).lexemes.map Lexeme.token) [] := by
  induction turns generalizing text position with
  | zero => cases enough
  | succ turns ih =>
    cases text with
    | nil => exact .done _
    | cons c text =>
      rw [TokenStream.scanFrom] at stopped ⊢
      by_cases isBlank : CharClass.isBlank c = true
      · rw [if_pos isBlank] at stopped ⊢
        exact .blank _ _ _ _ isBlank (ih (by simpa using enough) stopped)
      · rw [if_neg isBlank] at stopped ⊢
        cases found : Token.scan profile c text with
        | error fault =>
          rw [found] at stopped
          cases stopped
        | ok scanned =>
          rw [found] at stopped
          have shorter := Token.scan_shortens found
          simp only [List.length_cons] at enough
          exact .token _ _ _ _ _ (by simpa using isBlank) found (ih (by omega) stopped)

-- A text is read to its end exactly if its tokens are these and no fault ends them.
theorem ofText_iff {text : String} : Reads profile text.toList tokens [] ↔
    (TokenStream.ofText profile text).lexemes.map Lexeme.token = tokens ∧
      ∃ last, (TokenStream.ofText profile text).stop = .endOfText last := by
  constructor
  · exact fun read => read.scanFrom (Nat.lt_succ_self _)
  · rintro ⟨rfl, last, stopped⟩
    exact of_scanFrom (Nat.lt_succ_self _) stopped

end Reads
end TreePath
