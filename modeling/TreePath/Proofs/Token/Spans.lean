import TreePath.Proofs.Token.Reading
namespace TreePath

-- Line and column of the character that stands behind these: one more than the line feeds among them, and one
-- more than the characters behind the last line feed.
def Position.behind (before : List Char) : Position :=
  ⟨before.count '\n' + 1, (before.reverse.takeWhile (· ≠ '\n')).length + 1⟩

-- The characters that a fault is about.
def LexFault.text : LexFault → List Char
  | unexpectedCharacter c => [c]
  | unterminatedQuote quote => [quote]
  | invalidNumber number => number

-- The tokens of a text, and how reading it ends, where some characters stand before the text. Each token is
-- read from a run of the text that is not empty, runs follow one another, and between them, before the first
-- and behind the last stands white space only, up to the end of the text or to what no token starts with.
-- Positions are line and column behind all characters before them.
inductive Spans (profile : Profile) : List Char → List Char → List Lexeme → Stop → Prop where
  | ended (before blanks : List Char) (blank : ∀ c ∈ blanks, CharClass.isBlank c = true) :
      Spans profile before blanks [] (.endOfText (.behind (before ++ blanks)))
  | fault (before blanks : List Char) (c : Char) (rest : List Char) (fault : LexFault)
      (blank : ∀ c ∈ blanks, CharClass.isBlank c = true) (solid : CharClass.isBlank c = false)
      (refused : Token.scan profile c rest = .error fault) (shown : fault.text <+: c :: rest) :
      Spans profile before (blanks ++ c :: rest) [] (.fault ⟨fault, .behind (before ++ blanks)⟩)
  | token (before blanks : List Char) (c : Char) (word rest : List Char) (token : Token)
      (lexemes : List Lexeme) (stop : Stop) (blank : ∀ c ∈ blanks, CharClass.isBlank c = true)
      (solid : CharClass.isBlank c = false)
      (read : Token.scan profile c (word ++ rest) = .ok ⟨token, c :: word, rest⟩)
      (later : Spans profile (before ++ blanks ++ c :: word) rest lexemes stop) :
      Spans profile before (blanks ++ (c :: word ++ rest))
        (⟨token, .behind (before ++ blanks), c :: word⟩ :: lexemes) stop

variable {profile : Profile} {before blanks text : List Char} {c : Char} {fault : LexFault} {turns : Nat}
  {negative : Bool} {lexeme : Lexeme} {lexemes : List Lexeme} {stop : Stop} {position : Position}

namespace Position

theorem advance_behind : (behind before).advance c = behind (before ++ [c]) := by
  unfold advance behind
  rw [List.count_append, List.reverse_append, List.reverse_singleton, List.singleton_append]
  by_cases feed : c = '\n'
  · simp [feed]
  · simp [feed]

theorem after_behind : (behind before).after text = behind (before ++ text) := by
  induction text generalizing before with
  | nil => rw [List.append_nil]; rfl
  | cons c text ih =>
    calc (behind before).after (c :: text) = ((behind before).advance c).after text := rfl
      _ = behind (before ++ c :: text) := by
        rw [advance_behind, ih, List.append_assoc, List.singleton_append]

-- Some characters further on, a text is on a later line or in a later column.
theorem behind_append_ne {more : List Char} (some : more ≠ []) : behind (before ++ more) ≠ behind before := by
  intro same
  obtain ⟨line, column⟩ := Position.mk.inj same
  rw [List.count_append] at line
  have noFeed : '\n' ∉ more := by
    rw [← List.count_eq_zero]
    omega
  have plain : ∀ c ∈ more.reverse, decide (c ≠ '\n') = true := by
    intro c here
    rw [decide_eq_true_iff]
    rintro rfl
    exact noFeed (List.mem_reverse.mp here)
  rw [List.reverse_append, List.takeWhile_append_of_pos plain, List.length_append, List.length_reverse] at column
  have positive := List.length_pos_iff.mpr some
  omega

end Position

namespace Token

theorem scanNumber_shown (found : scanNumber profile negative text = .error fault) :
    fault.text <+: (if negative then ['-'] else []) ++ text := by
  unfold scanNumber at found
  dsimp only at found
  split at found
  · cases found
  · split at found
    · cases found
    · cases found
      exact (List.prefix_append_right_inj _).mpr (List.takeWhile_prefix _)

theorem scanOperator_shown (found : scanOperator c text = .error fault) : fault.text <+: c :: text := by
  unfold scanOperator at found
  split at found
  all_goals cases found
  exact ⟨text, rfl⟩

-- Where no token starts, the fault is about what stands there.
theorem scan_shown (found : scan profile c text = .error fault) : fault.text <+: c :: text := by
  unfold scan at found
  split at found
  · cases found
  split at found
  · split at found
    all_goals cases found
  split at found
  · split at found
    · cases found
      exact ⟨text, rfl⟩
    · cases found
  split at found
  · rename_i minus
    split at found
    · split at found
      · rw [minus]
        exact scanNumber_shown found
      · cases found
        exact ⟨_, rfl⟩
    · cases found
      exact ⟨[], rfl⟩
  split at found
  · exact scanNumber_shown found
  split at found
  · cases found
  split at found
  · exact scanOperator_shown found
  · cases found
    exact ⟨text, rfl⟩

end Token

namespace Spans

-- White space before a text belongs to the gap in front of it.
theorem blank (isBlank : CharClass.isBlank c = true) (spans : Spans profile (before ++ [c]) text lexemes stop) :
    Spans profile before (c :: text) lexemes stop := by
  have more : ∀ {blanks : List Char}, (∀ d ∈ blanks, CharClass.isBlank d = true) →
      ∀ d ∈ c :: blanks, CharClass.isBlank d = true := by
    intro blanks blank d here
    rcases List.mem_cons.mp here with rfl | later
    · exact isBlank
    · exact blank d later
  have joined : ∀ blanks : List Char, before ++ [c] ++ blanks = before ++ c :: blanks := by simp
  cases spans with
  | ended _ _ blank =>
    rw [joined]
    exact .ended before (c :: text) (more blank)
  | fault _ blanks d rest fault blank solid refused shown =>
    rw [joined]
    exact .fault before (c :: blanks) d rest fault (more blank) solid refused shown
  | token _ blanks d word rest token lexemes _ blank solid read later =>
    rw [joined] at later ⊢
    exact .token before (c :: blanks) d word rest token lexemes stop (more blank) solid read later

theorem scanFrom (enough : text.length < turns) :
    Spans profile before text (TokenStream.scanFrom profile turns (.behind before) text).lexemes
      (TokenStream.scanFrom profile turns (.behind before) text).stop := by
  induction turns generalizing before text with
  | zero => cases enough
  | succ turns ih =>
    cases text with
    | nil =>
      have ended : Spans profile before [] [] (.endOfText (.behind (before ++ []))) := .ended before [] nofun
      rwa [List.append_nil] at ended
    | cons c text =>
      rw [TokenStream.scanFrom]
      by_cases isBlank : CharClass.isBlank c = true
      · rw [if_pos isBlank, Position.advance_behind]
        exact .blank isBlank (ih (by simpa using enough))
      rw [if_neg isBlank]
      have solid : CharClass.isBlank c = false := by simpa using isBlank
      cases found : Token.scan profile c text with
      | error fault =>
        have stopped := Spans.fault before [] c text fault nofun solid found (Token.scan_shown found)
        rwa [List.append_nil] at stopped
      | ok scanned =>
        obtain ⟨token, word, rest⟩ := scanned
        obtain ⟨whole, nonempty⟩ := Token.scan_text found
        dsimp only at whole nonempty ⊢
        obtain ⟨d, word, rfl⟩ := List.exists_cons_of_ne_nil nonempty
        obtain ⟨rfl, rfl⟩ := List.cons.inj whole
        rw [Position.after_behind]
        have shorter : rest.length < turns := by
          simp only [List.append_eq, List.length_cons, List.length_append] at enough
          omega
        have later := @ih (before ++ d :: word) rest shorter
        have spans := Spans.token before [] d word rest token _ _ nofun solid found (by rwa [List.append_nil])
        rwa [List.append_nil] at spans

-- Every token is where its position says.
theorem placed (spans : Spans profile before text lexemes stop) (here : lexeme ∈ lexemes) :
    lexeme.text ≠ [] ∧ ∃ gap rest, text = gap ++ (lexeme.text ++ rest) ∧
      lexeme.position = .behind (before ++ gap) := by
  induction spans with
  | ended | fault => cases here
  | token before blanks c word rest token lexemes stop blank solid read later ih =>
    rcases List.mem_cons.mp here with rfl | here
    · exact ⟨List.cons_ne_nil _ _, blanks, rest, rfl, rfl⟩
    · obtain ⟨some, gap, rest, rfl, position⟩ := ih here
      refine ⟨some, blanks ++ (c :: word ++ gap), rest, by simp, ?_⟩
      rw [position]
      simp

-- No two tokens start at one place.
theorem nodup_positions (spans : Spans profile before text lexemes stop) :
    (lexemes.map Lexeme.position).Nodup := by
  induction spans with
  | ended | fault => exact .nil
  | token before blanks c word rest token lexemes stop blank solid read later ih =>
    rw [List.map_cons, List.nodup_cons]
    refine ⟨fun here => ?_, ih⟩
    obtain ⟨lexeme, later', same⟩ := List.mem_map.mp here
    obtain ⟨_, gap, _, _, position⟩ := later.placed later'
    rw [position, List.append_assoc] at same
    exact Position.behind_append_ne (List.append_ne_nil_of_left_ne_nil (List.cons_ne_nil c word) gap) same

-- The end of the text is behind all of its characters.
theorem last (spans : Spans profile before text lexemes (.endOfText position)) :
    position = .behind (before ++ text) := by
  generalize ended : Stop.endOfText position = stop at spans
  induction spans with
  | ended => exact Stop.endOfText.inj ended
  | fault => cases ended
  | token before blanks c word rest token lexemes stop blank solid read later ih =>
    rw [ih ended]
    simp

end Spans

-- Every character of a text belongs to a token or is white space, up to where reading stops.
theorem TokenStream.ofText_spans (profile : Profile) (text : String) :
    Spans profile [] text.toList (ofText profile text).lexemes (ofText profile text).stop :=
  Spans.scanFrom (Nat.lt_succ_self _)

end TreePath
