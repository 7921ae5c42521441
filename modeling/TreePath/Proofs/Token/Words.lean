import TreePath.Path.Text
import TreePath.Proofs.Token.Reading
namespace TreePath

variable {profile : Profile} {text word rest said : List Char} {token : Token} {c quote : Char}

theorem CharClass.isDigit_eq : CharClass.isDigit c = c.isDigit := by
  rw [CharClass.isDigit, Char.isDigit, Bool.eq_iff_iff]
  simp [Char.le_def]

theorem CharClass.toNat_of_isDigit (digit : CharClass.isDigit c = true) :
    48 ≤ c.toNat ∧ c.toNat ≤ 57 := by
  rw [CharClass.isDigit_eq] at digit
  exact Char.isDigit_iff_toNat.mp digit

theorem CharClass.isBlank_of_isDigit (digit : CharClass.isDigit c = true) :
    CharClass.isBlank c = false := by
  have bounds := CharClass.toNat_of_isDigit digit
  simp [CharClass.isBlank]
  omega

theorem Token.isNameStart_of_isDigit (digit : CharClass.isDigit c = true) :
    Token.isNameStart c = false := by
  have bounds := CharClass.toNat_of_isDigit digit
  have noAlpha : c.isAlpha = false := by
    change (decide (65 ≤ c.val ∧ c.val ≤ 90) || (decide (97 ≤ c.val) && decide (c.val ≤ 122))) = false
    simp [UInt32.le_iff_toNat_le]
    omega
  have noMark : c ≠ '_' ∧ c ≠ '@' := by
    constructor
    all_goals
      rintro rfl
      revert bounds
      decide
  simp [Token.isNameStart, CharClass.isLetter, noAlpha, noMark]
  omega

-- Characters with which a token starts that is neither a number without a sign, nor a bare name, nor an
-- operator of the extended grammar.
def Token.marks : List Char := "$*,:|&[]().\"'`-".toList

theorem Token.not_mem_marks {holds : Char → Bool} (here : holds c = true)
    (none : Token.marks.any holds = false) : c ∉ Token.marks := by
  intro mark
  exact List.any_eq_false.mp none c mark here

theorem Token.scan_plain (plain : c ∉ Token.marks) : Token.scan profile c text =
    if CharClass.isDigit c then Token.scanNumber profile false (c :: text)
    else if Token.isNameStart c then
      .ok ⟨Token.ofWord profile (c :: text.takeWhile Token.isNamePart),
        c :: text.takeWhile Token.isNamePart, text.dropWhile Token.isNamePart⟩
    else if profile.isExtended then Token.scanOperator c text
    else .error (.unexpectedCharacter c) := by
  have apart : ∀ d ∈ Token.marks, c ≠ d := by
    rintro d mark rfl
    exact plain mark
  have noMark : Token.ofMark? c = none := by
    unfold Token.ofMark?
    split
    all_goals first | rfl | exact absurd rfl (apart _ (by decide))
  have noQuote : ¬(c = '"' ∨ c = '\'' ∨ c = '`') := by
    rintro (same | same | same)
    all_goals exact apart _ (by decide) same
  unfold Token.scan
  rw [noMark]
  dsimp only
  rw [if_neg (apart '.' (by decide)), if_neg noQuote, if_neg (apart '-' (by decide))]

-- A run of characters ends where the text behind it does not go on with it.
theorem takeWhile_run {holds : Char → Bool} (inside : ∀ c ∈ word, holds c = true)
    (ends : ∀ c ∈ rest.head?, holds c = false) : (word ++ rest).takeWhile holds = word := by
  rw [List.takeWhile_append_of_pos inside]
  cases rest with
  | nil => simp
  | cons c rest => simp [ends c rfl]

theorem dropWhile_run {holds : Char → Bool} (inside : ∀ c ∈ word, holds c = true)
    (ends : ∀ c ∈ rest.head?, holds c = false) : (word ++ rest).dropWhile holds = rest := by
  rw [List.dropWhile_append_of_pos inside]
  cases rest with
  | nil => rfl
  | cons c rest => simp [ends c rfl]

theorem Integer.ofInt?_toInt (n : Int64) : ofInt? n.toInt = some n := by
  have low := Int64.le_toInt n
  have high := Int64.toInt_lt n
  rw [ofInt?, if_pos, Int64.ofInt_toInt]
  unfold lowest highest
  omega

theorem Integer.ofDigits_repr (n : Nat) : ofDigits n.repr.toList = n := by
  rw [Nat.toList_repr]
  exact Nat.ofDigitChars_ten_toDigits

theorem Integer.isDigit_of_mem_repr (n : Nat) (here : c ∈ n.repr.toList) :
    CharClass.isDigit c = true := by
  rw [Nat.toList_repr] at here
  rw [CharClass.isDigit_eq]
  exact Nat.isDigit_of_mem_toDigits (by decide) (by decide) here

theorem Integer.text_cases (n : Int64) :
    (∃ m : Nat, n.toInt = .ofNat m ∧ (Integer.text n).toList = m.repr.toList) ∨
      ∃ m : Nat, n.toInt = .negSucc m ∧ (Integer.text n).toList = '-' :: (m + 1).repr.toList := by
  unfold Integer.text
  cases n.toInt with
  | ofNat m => exact .inl ⟨m, rfl, rfl⟩
  | negSucc m => exact .inr ⟨m, rfl, by simp [Integer.textOfInt]⟩

namespace Token

theorem scanFraction_behind : scanFraction profile ('.' :: text) =
    if profile.isExtended && (text.takeWhile CharClass.isDigit ≠ []) then
      some (text.takeWhile CharClass.isDigit, text.dropWhile CharClass.isDigit)
    else none :=
  rfl

theorem scanFraction_plain (plain : text.head? ≠ some '.') : scanFraction profile text = none := by
  unfold scanFraction
  split
  · exact absurd rfl plain
  · rfl

theorem scanNumber_digits {n : Int64} (profile : Profile) (negative : Bool)
    (inside : ∀ d ∈ word, CharClass.isDigit d = true)
    (ends : ∀ d ∈ rest.head?, CharClass.isDigit d = false) (whole : rest.head? ≠ some '.')
    (fits : Integer.ofInt? (if negative then -(Integer.ofDigits word : Int)
      else (Integer.ofDigits word : Int)) = some n) :
    scanNumber profile negative (word ++ rest) =
      .ok ⟨.number n, (if negative then ['-'] else []) ++ word, rest⟩ := by
  have point : scanFraction profile rest = none := scanFraction_plain whole
  unfold scanNumber
  rw [takeWhile_run inside ends, dropWhile_run inside ends]
  dsimp only
  rw [point]
  dsimp only
  rw [fits]

theorem scan_digit (digit : CharClass.isDigit c = true) :
    scan profile c text = scanNumber profile false (c :: text) := by
  rw [scan_plain (not_mem_marks digit (by decide)), if_pos digit]

theorem scan_minus (digit : CharClass.isDigit c = true) :
    scan profile '-' (c :: text) = scanNumber profile true (c :: text) := by
  unfold scan
  exact if_pos digit

-- A backslash before each quotation mark and each backslash, and nothing else.
theorem scanQuoted_spelled {escape : Char → List Char} (apart : quote ≠ '\\')
    (spelled : ∀ c ∈ said, escape c = if c = quote ∨ c = '\\' then ['\\', c] else [c]) :
    scanQuoted quote (said.flatMap escape ++ quote :: rest) =
      some (said, said.flatMap escape ++ [quote], rest) := by
  induction said with
  | nil =>
    rw [scanQuoted.eq_def]
    exact if_pos rfl
  | cons c said ih =>
    have later := ih fun d here => spelled d (List.mem_cons_of_mem c here)
    rw [List.flatMap_cons, List.append_assoc, spelled c List.mem_cons_self, scanQuoted.eq_def]
    by_cases special : c = quote ∨ c = '\\'
    · rw [if_pos special]
      dsimp only [List.cons_append, List.nil_append]
      rw [if_neg apart.symm, if_pos rfl, later]
      rfl
    · rw [if_neg special]
      obtain ⟨noQuote, noEscape⟩ := not_or.mp special
      dsimp only [List.cons_append, List.nil_append]
      rw [if_neg noQuote, if_neg noEscape, later]
      rfl

theorem scanQuoted_plain (noQuote : quote ∉ word) (noEscape : '\\' ∉ word) :
    scanQuoted quote (word ++ quote :: rest) = some (word, word ++ [quote], rest) := by
  induction word with
  | nil =>
    rw [scanQuoted.eq_def]
    exact if_pos rfl
  | cons c word ih =>
    rw [List.mem_cons, not_or] at noQuote noEscape
    rw [List.cons_append, scanQuoted.eq_def]
    dsimp only
    rw [if_neg (Ne.symm noQuote.1), if_neg (Ne.symm noEscape.1), ih noQuote.2 noEscape.2]
    rfl

end Token

namespace Reads

theorem mark (found : Token.ofMark? c = some token) : Reads profile (c :: rest) [token] rest := by
  have solid : CharClass.isBlank c = false := by
    unfold Token.ofMark? at found
    split at found
    all_goals first | decide | cases found
  refine .token c rest ⟨token, [c], rest⟩ [] rest solid ?_ (.done rest)
  unfold Token.scan
  rw [found]

theorem dot (single : rest.head? ≠ some '.') : Reads profile ('.' :: rest) [.dot] rest := by
  refine .token '.' rest ⟨.dot, ['.'], rest⟩ [] rest (by decide) ?_ (.done rest)
  have noMark : Token.ofMark? '.' = none := rfl
  unfold Token.scan
  rw [noMark]
  dsimp only
  rw [if_pos rfl]
  split
  · exact absurd rfl single
  · rfl

theorem doubleDot : Reads profile ('.' :: '.' :: rest) [.doubleDot] rest :=
  .token '.' _ ⟨.doubleDot, ['.', '.'], rest⟩ [] rest (by decide) rfl (.done rest)

theorem name (solid : CharClass.isBlank c = false) (starts : Token.isNameStart c = true)
    (inside : ∀ d ∈ word, Token.isNamePart d = true)
    (ends : ∀ d ∈ rest.head?, Token.isNamePart d = false) :
    Reads profile (c :: (word ++ rest)) [Token.ofWord profile (c :: word)] rest := by
  have noDigit : ¬CharClass.isDigit c = true := by
    intro digit
    rw [Token.isNameStart_of_isDigit digit] at starts
    cases starts
  refine .token c _ ⟨Token.ofWord profile (c :: word), c :: word, rest⟩ [] rest solid ?_ (.done rest)
  rw [Token.scan_plain (Token.not_mem_marks starts (by decide)), if_neg noDigit, if_pos starts,
    takeWhile_run inside ends, dropWhile_run inside ends]

theorem quoted_spelled {escape : Char → List Char} (isQuote : quote = '"' ∨ quote = '\'')
    (spelled : ∀ c ∈ said, escape c = if c = quote ∨ c = '\\' then ['\\', c] else [c]) :
    Reads profile (quote :: (said.flatMap escape ++ quote :: rest)) [.identifier (String.ofList said)] rest := by
  have apart : quote ≠ '\\' ∧ quote ≠ '.' ∧ quote ≠ '`' ∧ CharClass.isBlank quote = false ∧
      Token.ofMark? quote = none := by
    rcases isQuote with rfl | rfl
    all_goals decide
  obtain ⟨noEscape, noPoint, noBacktick, solid, noMark⟩ := apart
  refine .token quote _ ⟨.identifier (String.ofList said), quote :: (said.flatMap escape ++ [quote]), rest⟩ [] rest
    solid ?_ (.done rest)
  unfold Token.scan
  rw [noMark]
  dsimp only
  rw [if_neg noPoint, if_pos (isQuote.imp_right .inl), Token.scanQuoted_spelled noEscape spelled]
  dsimp only
  rw [if_neg noBacktick]

theorem quoted : Reads profile ('\'' :: (said.flatMap escapeQuoted ++ '\'' :: rest))
    [.identifier (String.ofList said)] rest :=
  quoted_spelled (.inr rfl) fun _ _ => rfl

theorem operator (noQuote : '`' ∉ word) (noEscape : '\\' ∉ word) :
    Reads profile ('`' :: (word ++ '`' :: rest)) [.namedOperator (String.ofList word)] rest := by
  refine .token '`' _ ⟨.namedOperator (String.ofList word), '`' :: (word ++ ['`']), rest⟩ [] rest
    (by decide) ?_ (.done rest)
  unfold Token.scan
  dsimp only [Token.ofMark?]
  rw [if_neg (by decide), if_pos (by decide), Token.scanQuoted_plain noQuote noEscape]
  rfl

theorem integer (n : Int64) (ends : ∀ d ∈ rest.head?, CharClass.isDigit d = false)
    (whole : rest.head? ≠ some '.') :
    Reads profile ((Integer.text n).toList ++ rest) [.number n] rest := by
  have fits := Integer.ofInt?_toInt n
  have inside : ∀ m : Nat, ∀ d ∈ m.repr.toList, CharClass.isDigit d = true :=
    fun m d => Integer.isDigit_of_mem_repr m
  have nonempty : ∀ m : Nat, ∃ d word, m.repr.toList = d :: word := by
    intro m
    rw [Nat.toList_repr]
    exact List.exists_cons_of_ne_nil Nat.toDigits_ne_nil
  unfold Integer.text
  cases value : n.toInt with
  | ofNat m =>
    have found := Token.scanNumber_digits profile false (inside m) ends whole
      (by rw [Integer.ofDigits_repr, ← fits, value]; rfl)
    obtain ⟨d, word, same⟩ := nonempty m
    have digit := inside m d (by rw [same]; exact List.mem_cons_self)
    change Reads profile (m.repr.toList ++ rest) _ _
    rw [same] at found ⊢
    exact .token d _ ⟨.number n, d :: word, rest⟩ [] rest (CharClass.isBlank_of_isDigit digit)
      ((Token.scan_digit digit).trans found) (.done rest)
  | negSucc m =>
    have found := Token.scanNumber_digits profile true (inside (m + 1)) ends whole
      (by rw [Integer.ofDigits_repr, ← fits, value]; rfl)
    obtain ⟨d, word, same⟩ := nonempty (m + 1)
    have digit := inside (m + 1) d (by rw [same]; exact List.mem_cons_self)
    have text : (Integer.textOfInt (.negSucc m)).toList = '-' :: (m + 1).repr.toList := by
      simp [Integer.textOfInt]
    rw [text]
    rw [same] at found ⊢
    exact .token '-' _ ⟨.number n, '-' :: d :: word, rest⟩ [] rest (by decide)
      ((Token.scan_minus digit).trans found) (.done rest)

end Reads
end TreePath
