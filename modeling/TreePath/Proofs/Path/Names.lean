import Mathlib.Data.List.TakeWhile
import TreePath.Proofs.Token.Words
namespace TreePath

-- A name that is written bare is read as one name, which in the extended grammar may be a truth value.
def ReadBare (profile : Profile) (name : String) : Prop :=
  ∃ lexeme, (TokenStream.ofText profile name).lexemes = [lexeme] ∧
    lexeme.token.fieldName?.isSome = true ∧
    ∃ last, (TokenStream.ofText profile name).stop = .endOfText last

def Legible (profile : Profile) (name : String) : Prop :=
  name ≠ "@" ∧ (needsQuotes name = true ∨ ReadBare profile name)

def nameToken (profile : Profile) (name : String) : Token :=
  if needsQuotes name then .identifier name else Token.ofWord profile name.toList

variable {profile : Profile} {name : String} {c : Char} {text rest : List Char}
  {scanned : Token.Scanned} {negative : Bool}

theorem fieldName?_nameToken : (nameToken profile name).fieldName? = some name := by
  unfold nameToken
  split
  · rfl
  · rename_i bare
    have apart : name ≠ "where" ∧ name ≠ "wherenot" := by
      constructor
      all_goals
        rintro rfl
        exact bare (by decide)
    unfold Token.ofWord
    rw [String.ofList_toList, if_neg apart.1, if_neg apart.2]
    split
    · rename_i truth
      simp only [Bool.and_eq_true, beq_iff_eq] at truth
      exact congrArg some truth.2.symm
    split
    · rename_i truth
      simp only [Bool.and_eq_true, beq_iff_eq] at truth
      exact congrArg some truth.2.symm
    · rfl

theorem solid_of_bare (bare : needsQuotes name = false) :
    ∀ c ∈ name.toList, CharClass.isBlank c = false ∧ c ∉ reservedMarks := by
  intro c here
  have marks := (Bool.or_eq_false_iff.mp bare).2
  have none := List.any_eq_false.mp marks c here
  simpa using none

def Token.isNumber : Token → Bool
  | number _ => true
  | real _ => true
  | _ => false

theorem Token.fieldName?_of_isNumber {token : Token} (number : token.isNumber = true) :
    token.fieldName? = none := by
  cases token <;> first | rfl | cases number

theorem scanNumber_isNumber (found : Token.scanNumber profile negative text = .ok scanned) :
    scanned.token.isNumber = true := by
  unfold Token.scanNumber at found
  dsimp only at found
  generalize Token.scanFraction profile _ = point at found
  generalize Integer.ofInt? _ = value at found
  cases point with
  | some parts =>
    cases found
    rfl
  | none =>
    cases value with
    | some n =>
      cases found
      rfl
    | none => cases found

theorem scanOperator_reserved (found : Token.scanOperator c text = .ok scanned) : c ∈ reservedMarks := by
  unfold Token.scanOperator at found
  split at found
  all_goals
    cases found
    try decide

-- A character that is not reserved starts a bare name or a number.
theorem scan_bare (bare : c ∉ reservedMarks) (found : Token.scan profile c text = .ok scanned) :
    Token.isNameStart c = true ∧ scanned.rest = text.dropWhile Token.isNamePart ∨
      (c = '-' ∨ CharClass.isDigit c = true) ∧ scanned.token.isNumber = true := by
  by_cases minus : c = '-'
  · subst minus
    cases text with
    | nil => cases found
    | cons d text =>
      by_cases digit : CharClass.isDigit d = true
      · rw [Token.scan_minus digit] at found
        exact .inr ⟨.inl rfl, scanNumber_isNumber found⟩
      · unfold Token.scan at found
        dsimp only [Token.ofMark?] at found
        rw [if_neg (by decide), if_neg (by decide), if_pos rfl, if_neg digit] at found
        cases found
  · have plain : c ∉ Token.marks := by
      intro mark
      have others : Token.marks.all (fun d => d == '-' || reservedMarks.contains d) = true := by decide
      have either := List.all_eq_true.mp others c mark
      simp only [Bool.or_eq_true, beq_iff_eq, List.contains_iff_mem] at either
      exact either.elim minus bare
    rw [Token.scan_plain plain] at found
    by_cases digit : CharClass.isDigit c = true
    · rw [if_pos digit] at found
      exact .inr ⟨.inr digit, scanNumber_isNumber found⟩
    rw [if_neg digit] at found
    by_cases starts : Token.isNameStart c = true
    · rw [if_pos starts] at found
      cases found
      exact .inl ⟨starts, rfl⟩
    rw [if_neg starts] at found
    split at found
    · exact absurd (scanOperator_reserved found) bare
    · cases found

theorem scan_name (bare : c ∉ reservedMarks) (found : Token.scan profile c text = .ok scanned)
    (named : scanned.token.fieldName?.isSome = true) :
    Token.isNameStart c = true ∧ scanned.rest = text.dropWhile Token.isNamePart := by
  rcases scan_bare bare found with name | ⟨_, number⟩
  · exact name
  · rw [Token.fieldName?_of_isNumber number] at named
    cases named

theorem reads_nothing (read : Reads profile text [] [])
    (solid : ∀ c ∈ text, CharClass.isBlank c = false) : text = [] := by
  cases read with
  | done => rfl
  | blank c text tokens rest isBlank later =>
    rw [solid c List.mem_cons_self] at isBlank
    cases isBlank

theorem readBare_word (read : ReadBare profile name) (bare : needsQuotes name = false) :
    ∃ c word, name.toList = c :: word ∧ CharClass.isBlank c = false ∧
      Token.isNameStart c = true ∧ ∀ d ∈ word, Token.isNamePart d = true := by
  obtain ⟨lexeme, single, named, stopped⟩ := read
  have solid := solid_of_bare bare
  have read : Reads profile name.toList [lexeme.token] [] :=
    Reads.ofText_iff.mpr ⟨congrArg (List.map Lexeme.token) single, stopped⟩
  generalize name.toList = chars at read solid
  generalize made : [lexeme.token] = tokens at read
  cases read with
  | done => cases made
  | blank c text tokens rest isBlank later =>
    rw [(solid c List.mem_cons_self).1] at isBlank
    cases isBlank
  | token c text scanned tokens rest isSolid found later =>
    obtain ⟨same, rfl⟩ := List.cons.inj made
    rw [same] at named
    obtain ⟨starts, behind⟩ := scan_name (solid c List.mem_cons_self).2 found named
    have ends : text.dropWhile Token.isNamePart = [] := by
      rw [← behind]
      refine reads_nothing later fun d here => ?_
      rw [behind] at here
      exact (solid d (List.mem_cons_of_mem c ((List.dropWhile_sublist _).mem here))).1
    exact ⟨c, text, rfl, isSolid, starts, List.dropWhile_eq_nil_iff.mp ends⟩

end TreePath
