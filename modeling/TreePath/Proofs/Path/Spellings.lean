import TreePath.Proofs.Path.Atoms
import TreePath.Proofs.Path.Derivation
import TreePath.Proofs.Path.Reported
namespace TreePath
open Grammar

-- What leads one step down: the name of a member, or the index of an element.
inductive Key where
  | member (name : String)
  | element (i : Int64)

-- Whether names stand behind points or in brackets. Indices always stand in brackets.
inductive Spelling where
  | dotted
  | bracketed

namespace Key

def quoted (name : String) : List Char := '\'' :: (name.toList.flatMap escapeQuoted ++ ['\''])

def text (spelling : Spelling) : Key → List Char
  | member name =>
    match spelling with
    | .dotted => '.' :: quoted name
    | .bracketed => '[' :: (quoted name ++ [']'])
  | element i => '[' :: ((Integer.text i).toList ++ [']'])

def segment : Key → Path
  | member name => .field name
  | element i => .index i

-- What the key is read as. Behind a point the at sign stands for the current value, quoted or not.
def readAs (profile : Profile) (spelling : Spelling) : Key → Path
  | member name =>
    match spelling with
    | .dotted => if name = "@" ∧ profile.isExtended then .this else .field name
    | .bracketed => .field name
  | element i => .index i

def tokens (spelling : Spelling) : Key → List Token
  | member name =>
    match spelling with
    | .dotted => [.dot, .identifier name]
    | .bracketed => [.leftBracket, .identifier name, .rightBracket]
  | element i => [.leftBracket, .number i, .rightBracket]

-- The expression that goes down by these keys from the top.
def expression (spelling : Spelling) (keys : List Key) : String :=
  String.ofList ('$' :: keys.flatMap (text spelling))

end Key

variable {profile : Profile} {spelling : Spelling} {key : Key} {keys : List Key} {name : String} {rest : List Char}
  {s : Setting} {last : Position} {levels : Nat} {left : Path} {written later : List Lexeme} {lexeme : Lexeme}

theorem reads_quoted : Reads profile (Key.quoted name ++ rest) [.identifier name] rest := by
  have read : Reads profile ('\'' :: (name.toList.flatMap escapeQuoted ++ '\'' :: rest))
      [.identifier (String.ofList name.toList)] rest := .quoted
  rw [String.ofList_toList] at read
  simpa [Key.quoted] using read

theorem reads_key : Reads profile (key.text spelling ++ rest) (key.tokens spelling) rest := by
  have opens : ∀ text, Reads profile ('[' :: text) [.leftBracket] text := fun _ => .mark rfl
  have closes : Reads profile (']' :: rest) [.rightBracket] rest := .mark rfl
  cases key with
  | member name =>
    cases spelling with
    | dotted => exact (Reads.dot (by simp [Key.quoted])).cons reads_quoted
    | bracketed =>
      rw [Key.text, List.cons_append, List.append_assoc]
      exact (opens _).cons (reads_quoted.cons closes)
  | element i =>
    rw [Key.text, List.cons_append, List.append_assoc]
    exact (opens _).cons ((Reads.integer i (by simp; decide) (by simp)).cons closes)

theorem reads_keys : Reads profile (keys.flatMap (Key.text spelling)) (keys.flatMap (Key.tokens spelling)) [] := by
  induction keys with
  | nil => exact .done []
  | cons key keys ih =>
    rw [List.flatMap_cons, List.flatMap_cons]
    exact reads_key.append ih

theorem reads_expression : Reads profile (Key.expression spelling keys).toList
    (.dollar :: keys.flatMap (Key.tokens spelling)) [] := by
  rw [Key.expression, String.toList_ofList]
  exact (Reads.mark rfl).cons reads_keys

-- Behind a key stands a point, a bracket or nothing; the operand of a point ends there.
theorem key_behind (spelled : written.map Lexeme.token = keys.flatMap (Key.tokens spelling)) :
    head? written = none ∨ head? written = some .dot ∨ head? written = some .leftBracket := by
  have head : head? written = (keys.flatMap (Key.tokens spelling)).head? := by
    rw [← spelled, head?, List.head?_map]
  rw [head]
  cases keys with
  | nil => exact .inl rfl
  | cons key keys => cases key <;> cases spelling <;> simp [Key.tokens]

theorem moreNames_apart (apart : head? written ≠ some .comma) : moreNames s written = .ok ([], written) :=
  moreNames_exact.mpr (.ends written fun comma => absurd comma apart)

-- A quoted name behind a point.
theorem operand_name (ended : s.stop = .endOfText last) (same : lexeme.token = .identifier name)
    (behind : head? written = none ∨ head? written = some .dot ∨ head? written = some .leftBracket) :
    Derives s (.path levels (Infix.child.tightness + 1) (lexeme :: written)
      ((Key.member name).readAs s.profile .dotted) written) := by
  have named : (head? (lexeme :: written)).bind Token.fieldName? = some name := congrArg Token.fieldName? same
  have noComma : head? written ≠ some .comma := by
    rcases behind with none | dot | bracket <;> simp [*]
  refine .path _ _ _ _ written _ _ (.word _ _ _ _ (atom_exact.mpr ?_)) (.ends _ _ _ _ (fun _ => by decide) ?_)
  · unfold Key.readAs
    dsimp only
    split
    · rename_i self
      exact .this written (self.1 ▸ named) self.2 (next_ended ended)
    · rename_i other
      exact .fields name _ _ written named other (next_ended ended) (fieldList_read (moreNames_apart noComma))
  · intro operator sign
    rcases behind with none | dot | bracket
    · rw [none] at sign
      cases sign
    · rw [dot] at sign
      cases sign
      decide
    · rw [bracket] at sign
      cases sign

theorem body_name (ended : s.stop = .endOfText last) (same : lexeme.token = .identifier name) {closes : Lexeme}
    (closing : closes.token = .rightBracket) :
    Derives s (.body levels (lexeme :: closes :: written) (.field name) written) := by
  have head : head? (closes :: written) = some .rightBracket := congrArg some closing
  have noComma : head? (closes :: written) ≠ some .comma := by
    rw [head]
    nofun
  exact .body _ _ _ (closes :: written) _ (.fields _ _ name _ _ _ (congrArg Token.fieldName? same) (next_ended ended)
    (fieldList_read (moreNames_apart noComma))) (expect_ended ended closing)

theorem body_index (ended : s.stop = .endOfText last) {i : Int64} (same : lexeme.token = .number i) {closes : Lexeme}
    (closing : closes.token = .rightBracket) :
    Derives s (.body levels (lexeme :: closes :: written) (.index i) written) := by
  have spelled : [lexeme].map Lexeme.token = [.number i] := congrArg (· :: []) same
  exact .body _ _ _ (closes :: written) _ (.place _ _ _ _ (indexOrSlice_index ended (closing_apart closing) spelled))
    (expect_ended ended closing)

-- Each key is taken by the path in front of it, behind a point as in brackets.
theorem tail_keys (ended : s.stop = .endOfText last)
    (spelled : written.map Lexeme.token = keys.flatMap (Key.tokens spelling)) :
    Derives s (.tail (levels + 1) 0 left written ((keys.map (Key.readAs s.profile spelling)).foldl .child left) []) := by
  induction keys generalizing left written with
  | nil =>
    cases List.map_eq_nil_iff.mp spelled
    exact .ends _ _ _ _ nofun nofun
  | cons key keys ih =>
    have opened : ∀ {opens inner closes : Lexeme} {behind : List Lexeme} {segment : Path}, opens.token = .leftBracket →
        behind.map Lexeme.token = keys.flatMap (Key.tokens spelling) →
        Derives s (.body levels (inner :: closes :: behind) segment behind) →
        Derives s (.tail (levels + 1) 0 left (opens :: inner :: closes :: behind)
          ((keys.map (Key.readAs s.profile spelling)).foldl .child (.child left segment)) []) :=
      fun opening spelled body => .segment _ _ _ _ _ _ _ _ _ (congrArg some opening) (by decide) (next_ended ended) body
        (ih spelled)
    rw [List.flatMap_cons] at spelled
    obtain ⟨first, behind, rfl, keySpelled, behindSpelled⟩ := List.map_eq_append_iff.mp spelled
    rw [List.map_cons, List.foldl_cons]
    cases key with
    | element i =>
      obtain ⟨opens, inner, rfl, opening, innerSpelled⟩ := List.map_eq_cons_iff.mp keySpelled
      obtain ⟨number, ending, rfl, isNumber, endingSpelled⟩ := List.map_eq_cons_iff.mp innerSpelled
      obtain ⟨closes, rfl, closing⟩ := spelled_single endingSpelled
      exact opened opening behindSpelled (body_index ended isNumber closing)
    | member name =>
      cases spelling with
      | dotted =>
        obtain ⟨point, inner, rfl, isDot, innerSpelled⟩ := List.map_eq_cons_iff.mp keySpelled
        obtain ⟨lexeme, rfl, isName⟩ := spelled_single innerSpelled
        have sign : (head? (point :: lexeme :: behind)).bind Infix.ofToken? = some .child :=
          congrArg Infix.ofToken? isDot
        exact .binary _ _ _ _ .child (lexeme :: behind) _ behind _ _ sign (by decide) (next_ended ended)
          (operand_name ended isName (key_behind behindSpelled)) (ih behindSpelled)
      | bracketed =>
        obtain ⟨opens, inner, rfl, opening, innerSpelled⟩ := List.map_eq_cons_iff.mp keySpelled
        obtain ⟨lexeme, ending, rfl, isName, endingSpelled⟩ := List.map_eq_cons_iff.mp innerSpelled
        obtain ⟨closes, rfl, closing⟩ := spelled_single endingSpelled
        exact opened opening behindSpelled (body_name ended isName closing)

theorem ofText_expression : Path.ofText profile (Key.expression spelling keys) =
    .ok ((keys.map (Key.readAs profile spelling)).foldl .child .root) := by
  obtain ⟨spelled, last, ended⟩ := Reads.ofText_iff.mp (@reads_expression profile spelling keys)
  rw [Path.ofText_within, Path.ofTextWithin_exact]
  refine ⟨⟨last, ended⟩, ?_⟩
  generalize TokenStream.ofText profile (Key.expression spelling keys) = stream at spelled ended
  obtain ⟨lexemes, stop⟩ := stream
  obtain ⟨dollar, behind, rfl, isDollar, behindSpelled⟩ := List.map_eq_cons_iff.mp spelled
  have root : Derives ⟨profile, stop⟩ (.atom maxNesting (dollar :: behind) .root behind) :=
    .word _ _ _ _ (atom_exact.mpr (.root behind (congrArg some isDollar) (next_ended ended)))
  have alone : arithmeticOperator? ⟨profile, stop⟩ [] = none := by
    unfold arithmeticOperator?
    split <;> rfl
  exact .expression _ _ _ _ (.alone _ _ _ _ (.operand _ _ _ _ (.path _ _ _ _ _ _ _ root (tail_keys ended behindSpelled)))
    alone)

theorem readAs_bracketed : key.readAs profile .bracketed = key.segment := by
  cases key <;> rfl

theorem readAs_dotted : key.readAs profile .dotted = key.segment ↔ profile = .core ∨ key ≠ .member "@" := by
  cases key with
  | element i => exact ⟨fun _ => .inr nofun, fun _ => rfl⟩
  | member name =>
    unfold Key.readAs Key.segment
    dsimp only
    by_cases self : name = "@" ∧ profile.isExtended
    · rw [if_pos self, self.1]
      refine ⟨nofun, fun apart => ?_⟩
      rcases apart with rfl | other
      · cases self.2
      · exact absurd rfl other
    · rw [if_neg self]
      refine ⟨fun _ => ?_, fun _ => rfl⟩
      cases profile with
      | core => exact .inl rfl
      | extended =>
        refine .inr fun same => self ⟨?_, rfl⟩
        cases same
        rfl

-- Both spellings are read in either grammar. In brackets every key is the segment it says; the spellings agree
-- unless there is an at sign, which the extended grammar takes for the current value behind a point though it
-- stands in quotation marks.
theorem ofText_spellings_iff (profile : Profile) (keys : List Key) :
    let path (spelling : Spelling) := Path.ofText profile (Key.expression spelling keys)
    path .bracketed = .ok ((keys.map Key.segment).foldl .child .root) ∧
      path .dotted = .ok ((keys.map (Key.readAs profile .dotted)).foldl .child .root) ∧
      (path .dotted = path .bracketed ↔ profile = .core ∨ Key.member "@" ∉ keys) := by
  intro path
  have bracketed : path .bracketed = .ok ((keys.map Key.segment).foldl .child .root) := by
    have segments : keys.map (Key.readAs profile .bracketed) = keys.map Key.segment :=
      List.map_congr_left fun _ _ => readAs_bracketed
    rw [← segments]
    exact ofText_expression
  have dotted : path .dotted = .ok ((keys.map (Key.readAs profile .dotted)).foldl .child .root) := ofText_expression
  refine ⟨bracketed, dotted, ?_⟩
  rw [bracketed, dotted, Except.ok.injEq]
  constructor
  · intro same
    obtain ⟨-, segments⟩ := foldl_child_inj (by rw [List.length_map, List.length_map]) same
    by_contra other
    obtain ⟨extended, listed⟩ := not_or.mp other
    exact (readAs_dotted.mp (List.map_inj_left.mp segments _ (not_not.mp listed))).elim extended (absurd rfl)
  · intro agrees
    have segments : keys.map (Key.readAs profile .dotted) = keys.map Key.segment := by
      refine List.map_congr_left fun key listed => readAs_dotted.mpr (agrees.imp_right fun unlisted => ?_)
      rintro rfl
      exact unlisted listed
    rw [segments]

example : Key.expression .dotted [.member "it's", .element (-1), .member "@"] = "$.'it\\'s'[-1].'@'" := by decide

-- A quoted at sign, behind a point and in brackets.
theorem ofText_spellings_self :
    let keys := [Key.member "@"]
    Key.expression .dotted keys = "$.'@'" ∧ Key.expression .bracketed keys = "$['@']" ∧
      Path.ofText .extended (Key.expression .dotted keys) ≠ Path.ofText .extended (Key.expression .bracketed keys) := by
  intro keys
  have dotted : Path.ofText .extended "$.'@'" = .ok (.child .root .this) := rfl
  have bracketed : Path.ofText .extended "$['@']" = .ok (.child .root (.field "@")) := rfl
  have dottedText : Key.expression .dotted keys = "$.'@'" := by decide
  have bracketedText : Key.expression .bracketed keys = "$['@']" := by decide
  refine ⟨dottedText, bracketedText, ?_⟩
  rw [dottedText, bracketedText, dotted, bracketed]
  exact nofun

end TreePath
