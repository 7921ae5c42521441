import Mathlib.Data.List.Nodup
import TreePath.Proofs.Path.Advance
import TreePath.Proofs.Path.Lockstep
import TreePath.Proofs.Token.Spans
namespace TreePath

-- The tokens of a text without their places.
def TokenStream.tokens (stream : TokenStream) : List Token := stream.lexemes.map Lexeme.token

-- What is wrong where reading stops before the end of the text, if it does.
def Stop.fault? : Stop → Option LexFault
  | endOfText _ => none
  | fault error => some error.fault

-- An error without its place.
def SyntaxError.unplaced : SyntaxError → SyntaxError
  | lexical error => lexical ⟨error.fault, .start⟩
  | unexpectedToken found expected _ => unexpectedToken found expected .start
  | unexpectedEnd expected _ => unexpectedEnd expected .start
  | unknownOperator name _ => unknownOperator name .start
  | invalid reason _ => invalid reason .start

-- The token of a text that starts at a position: it is one of the tokens that the text is read as, the position
-- is that of its first character, and no other token is said to start there.
def Token.StartsAt (profile : Profile) (text : String) (token : Token) (position : Position) : Prop :=
  ∃ before word behind, text.toList = before ++ (word ++ behind) ∧ word ≠ [] ∧ position = .behind before ∧
    (⟨token, position, word⟩ : Lexeme) ∈ (TokenStream.ofText profile text).lexemes ∧
      ∀ lexeme ∈ (TokenStream.ofText profile text).lexemes, lexeme.position = position → lexeme.token = token

-- The place of an error is that of what it is about: the token that was found, the end of the text, the token
-- of the unknown name, or a token of the construct that is invalid. Only nesting too deep can come to light at
-- the end of the text.
inductive SyntaxError.Located (profile : Profile) (text : String) : SyntaxError → Prop where
  | lexical (error : LexError) (stopped : (TokenStream.ofText profile text).stop = .fault error) :
      Located profile text (.lexical error)
  | unexpectedToken (found : Token) (expected : Expectation) (position : Position)
      (starts : found.StartsAt profile text position) :
      Located profile text (.unexpectedToken found expected position)
  | unexpectedEnd (expected : Expectation) :
      Located profile text (.unexpectedEnd expected (.behind text.toList))
  | unknownOperator (name : String) (position : Position)
      (starts : (Token.namedOperator name).StartsAt profile text position) :
      Located profile text (.unknownOperator name position)
  | invalid (reason : Invalid) (token : Token) (position : Position)
      (starts : token.StartsAt profile text position) : Located profile text (.invalid reason position)
  | tooDeep : Located profile text (.invalid .tooDeep (.behind text.toList))

variable {profile : Profile} {text : String} {stream stream' : TokenStream} {e e' : SyntaxError}
  {lexeme : Lexeme} {position : Position}

namespace Grammar

-- The tokens of two texts in order, which are the same up to the same fault or the end of both.
def Abreast.ofStreams (profile : Profile) (stream stream' : TokenStream)
    (stops : stream'.stop.fault? = stream.stop.fault?) : Abreast where
  left := ⟨profile, stream.stop⟩
  right := ⟨profile, stream'.stop⟩
  pair lexeme lexeme' := lexeme'.token = lexeme.token
  profile := rfl
  token := id
  stop := by
    cases stop : stream.stop with
    | endOfText last =>
      cases stop' : stream'.stop with
      | endOfText last' => exact .inl ⟨last, last', rfl, rfl⟩
      | fault error' =>
        rw [stop, stop'] at stops
        cases stops
    | fault error =>
      cases stop' : stream'.stop with
      | endOfText last' =>
        rw [stop, stop'] at stops
        cases stops
      | fault error' => exact .inr ⟨error, error', rfl, rfl⟩

theorem unplaced_matching {stops : stream'.stop.fault? = stream.stop.fault?}
    (matching : (Abreast.ofStreams profile stream stream' stops).Matching e e') : e'.unplaced = e.unplaced := by
  cases matching with
  | lexical error error' stop stop' =>
    change stream.stop = .fault error at stop
    change stream'.stop = .fault error' at stop'
    rw [stop, stop'] at stops
    exact congrArg (fun fault => SyntaxError.lexical ⟨fault, .start⟩) (Option.some.inj stops)
  | unexpectedToken lexeme lexeme' expected here =>
    exact congrArg (fun token => SyntaxError.unexpectedToken token expected .start) here
  | unexpectedEnd | unknownOperator | invalid | tooDeep => rfl

theorem whole_tokens (tokens : stream'.tokens = stream.tokens) (stops : stream'.stop.fault? = stream.stop.fault?) :
    (whole ⟨profile, stream'.stop⟩ stream'.lexemes).mapError SyntaxError.unplaced =
      (whole ⟨profile, stream.stop⟩ stream.lexemes).mapError SyntaxError.unplaced := by
  have all : List.Forall₂ (fun lexeme lexeme' : Lexeme => lexeme'.token = lexeme.token) stream.lexemes
      stream'.lexemes := by
    have same : List.Forall₂ (· = ·) (stream'.lexemes.map Lexeme.token) (stream.lexemes.map Lexeme.token) := by
      rw [List.forall₂_eq_eq_eq]
      exact tokens
    rw [List.forall₂_map_left_iff, List.forall₂_map_right_iff] at same
    exact same.flip
  have lockstep : (Abreast.ofStreams profile stream stream' stops).Lockstep (fun p p' => p' = p)
      (whole ⟨profile, stream.stop⟩ stream.lexemes) (whole ⟨profile, stream'.stop⟩ stream'.lexemes) :=
    Abreast.whole_follows all
  generalize whole ⟨profile, stream.stop⟩ stream.lexemes = read at lockstep ⊢
  generalize whole ⟨profile, stream'.stop⟩ stream'.lexemes = read' at lockstep ⊢
  cases lockstep with
  | ok p p' same => exact congrArg Except.ok same
  | error e e' matching => exact congrArg Except.error (unplaced_matching matching)

-- A text beside itself.
def Abreast.itself (profile : Profile) (stream : TokenStream) : Abreast where
  left := ⟨profile, stream.stop⟩
  right := ⟨profile, stream.stop⟩
  pair lexeme lexeme' := lexeme ∈ stream.lexemes ∧ lexeme' = lexeme
  profile := rfl
  token := fun same => congrArg Lexeme.token same.2
  stop := by
    cases stream.stop with
    | endOfText last => exact .inl ⟨last, last, rfl, rfl⟩
    | fault error => exact .inr ⟨error, error, rfl, rfl⟩

theorem startsAt_of_mem (here : lexeme ∈ (TokenStream.ofText profile text).lexemes) :
    lexeme.token.StartsAt profile text lexeme.position := by
  have spans : Spans profile [] text.toList (TokenStream.ofText profile text).lexemes
      (TokenStream.ofText profile text).stop := Spans.scanFrom (Nat.lt_succ_self _)
  obtain ⟨some, before, behind, whole, position⟩ := spans.placed here
  refine ⟨before, lexeme.text, behind, whole, some, position, here, fun other there same => ?_⟩
  exact congrArg Lexeme.token (List.inj_on_of_nodup_map spans.nodup_positions there here same)

theorem located_of_matching (matching : (Abreast.itself profile (.ofText profile text)).Matching e e') :
    e.Located profile text := by
  have spans : Spans profile [] text.toList (TokenStream.ofText profile text).lexemes
      (TokenStream.ofText profile text).stop := Spans.scanFrom (Nat.lt_succ_self _)
  have atEnd : ∀ {last}, (TokenStream.ofText profile text).stop = .endOfText last → last = .behind text.toList := by
    intro last stop
    rw [stop] at spans
    exact spans.last
  cases matching with
  | lexical error error' stop => exact .lexical error stop
  | unexpectedToken lexeme lexeme' expected here =>
    exact .unexpectedToken _ expected _ (startsAt_of_mem here.1)
  | unexpectedEnd expected last last' stop =>
    rw [atEnd stop]
    exact .unexpectedEnd expected
  | unknownOperator name lexeme lexeme' here named =>
    exact .unknownOperator name _ (named ▸ startsAt_of_mem here.1)
  | invalid reason lexeme lexeme' here => exact .invalid reason _ _ (startsAt_of_mem here.1)
  | tooDeep last last' stop =>
    rw [atEnd stop]
    exact .tooDeep

theorem whole_located (refused : whole ⟨profile, (TokenStream.ofText profile text).stop⟩
    (TokenStream.ofText profile text).lexemes = .error e) : e.Located profile text := by
  have all : List.Forall₂ (Abreast.itself profile (.ofText profile text)).pair
      (TokenStream.ofText profile text).lexemes (TokenStream.ofText profile text).lexemes :=
    List.forall₂_same.mpr fun lexeme here => ⟨here, rfl⟩
  have lockstep : (Abreast.itself profile (.ofText profile text)).Lockstep (fun p p' => p' = p)
      (whole ⟨profile, (TokenStream.ofText profile text).stop⟩ (TokenStream.ofText profile text).lexemes)
      (whole ⟨profile, (TokenStream.ofText profile text).stop⟩ (TokenStream.ofText profile text).lexemes) :=
    Abreast.whole_follows all
  rw [refused] at lockstep
  cases lockstep with
  | error _ _ matching => exact located_of_matching matching

end Grammar

-- A text is accepted only if it is read to its end, and what is made of a text is a matter of its tokens: texts
-- with the same tokens, up to the same fault if there is one, are the same path or have the same error, which
-- may be at different places of them.
theorem Path.ofText_tokens (profile : Profile) (text text' : String) :
    (∀ p, Path.ofText profile text = .ok p → (TokenStream.ofText profile text).stop.fault? = none) ∧
      ((TokenStream.ofText profile text').tokens = (TokenStream.ofText profile text).tokens →
        (TokenStream.ofText profile text').stop.fault? = (TokenStream.ofText profile text).stop.fault? →
          (Path.ofText profile text').mapError SyntaxError.unplaced =
            (Path.ofText profile text).mapError SyntaxError.unplaced) := by
  refine ⟨fun p read => ?_, Grammar.whole_tokens⟩
  obtain ⟨last, stopped⟩ := Grammar.whole_ended read
  exact congrArg Stop.fault? stopped

-- Behind a comma the parser has looked one token ahead when it refuses the comma.
theorem Path.ofText_tokens_ahead :
    let text := "[a,1]"
    let text' := " [ a\n, 1 ]"
    Path.ofText .extended text = .error (.unexpectedToken .comma .closingBracket ⟨1, 3⟩) ∧
      Path.ofText .extended text' = .error (.unexpectedToken .comma .closingBracket ⟨2, 1⟩) ∧
      (TokenStream.ofText .extended text').tokens = (TokenStream.ofText .extended text).tokens ∧
      (TokenStream.ofText .extended text').stop.fault? = (TokenStream.ofText .extended text).stop.fault? ∧
      (Path.ofText .extended text').mapError SyntaxError.unplaced =
        (Path.ofText .extended text).mapError SyntaxError.unplaced := by
  intro text text'
  have tokens : (TokenStream.ofText .extended text').tokens = (TokenStream.ofText .extended text).tokens := by
    decide +kernel
  have stops : (TokenStream.ofText .extended text').stop.fault? = (TokenStream.ofText .extended text).stop.fault? := by
    decide +kernel
  have refused : Path.ofText .extended "[a,1]" = .error (.unexpectedToken .comma .closingBracket ⟨1, 3⟩) := rfl
  have refused' : Path.ofText .extended " [ a\n, 1 ]" = .error (.unexpectedToken .comma .closingBracket ⟨2, 1⟩) := rfl
  exact ⟨refused, refused', tokens, stops, (Path.ofText_tokens .extended text text').2 tokens stops⟩

-- Where a text is refused, the error is at the place of what it is about.
theorem Path.ofText_located (profile : Profile) (text : String) (e : SyntaxError)
    (refused : Path.ofText profile text = .error e) : e.Located profile text :=
  Grammar.whole_located refused

theorem Path.ofText_located_comma :
    let e := SyntaxError.unexpectedToken .comma .closingBracket ⟨2, 2⟩
    Path.ofText .extended "[\na,1]" = .error e ∧ e.Located .extended "[\na,1]" := by
  intro e
  have refused : Path.ofText .extended "[\na,1]" = .error e := rfl
  exact ⟨refused, Path.ofText_located .extended "[\na,1]" e refused⟩

end TreePath
