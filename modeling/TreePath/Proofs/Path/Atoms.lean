import TreePath.Proofs.Path.Climbing
namespace TreePath.Grammar

-- Tokens that are paths by themselves.
inductive Mark : Token → Path → Prop where
  | root : Mark .dollar .root
  | wildcard : Mark .star .wildcard
  | this : Mark (.namedOperator "this") .this
  | parent : Mark (.namedOperator "parent") .parent

variable {s : Setting} {last : Position} {below : Level} {least depth : Nat} {p : Path}
  {rest written : List Lexeme} {lexeme opens closes : Lexeme} {token : Token} {name : String}
  {names : List String}

theorem moreNames_ends (ended : s.stop = .endOfText last) (ends : Ends least rest) :
    moreNames s rest = .ok ([], rest) :=
  moreNames_exact.mpr (.ends rest fun comma => ⟨rest.tail, next_ended ended, ends.comma comma⟩)

theorem moreNames_read (ended : s.stop = .endOfText last) (ends : Ends least rest)
    (spelled : (lexeme :: written).map Lexeme.token = fieldTokens s.profile (name :: names)) :
    lexeme.token.fieldName? = some name ∧ moreNames s (written ++ rest) = .ok (names, rest) := by
  induction names generalizing lexeme written name with
  | nil =>
    obtain ⟨first, others⟩ := List.cons.inj spelled
    cases List.map_eq_nil_iff.mp others
    rw [first]
    exact ⟨fieldName?_nameToken, moreNames_ends ended ends⟩
  | cons next names ih =>
    obtain ⟨first, others⟩ := List.cons.inj spelled
    obtain ⟨comma, behind, rfl, isComma, behindSpelled⟩ := List.map_eq_cons_iff.mp others
    cases behind with
    | nil => cases names <;> cases behindSpelled
    | cons second behind =>
      obtain ⟨named, more⟩ := ih behindSpelled
      refine ⟨by rw [first, fieldName?_nameToken], moreNames_exact.mpr ?_⟩
      exact .name _ _ _ next names rest (congrArg some isComma) (next_ended ended) named
        (next_ended ended) (moreNames_exact.mp more)

theorem climbs_fields (ended : s.stop = .endOfText last) (legible : name ≠ "@")
    (spelled : written.map Lexeme.token = fieldTokens s.profile (name :: names)) :
    Climbs s below 9 (.fields (name :: names)) written := by
  refine climbs_atom fun rest ends => ?_
  cases written with
  | nil => cases names <;> cases spelled
  | cons lexeme written =>
    obtain ⟨named, more⟩ := moreNames_read ended ends spelled
    exact atom_exact.mpr (.fields name _ _ rest named (fun self => legible self.1) (next_ended ended)
      (fieldList_read more))

-- A name on its own, however it is spelled.
theorem climbs_name (ended : s.stop = .endOfText last) (legible : name ≠ "@")
    (same : lexeme.token = .identifier name) : Climbs s below 9 (.field name) [lexeme] := by
  refine climbs_atom fun rest ends => ?_
  have named : (head? (lexeme :: rest)).bind Token.fieldName? = some name := congrArg Token.fieldName? same
  exact atom_exact.mpr (.fields name _ _ rest named (fun self => legible self.1) (next_ended ended)
    (fieldList_read (moreNames_ends ended ends)))

theorem climbs_mark (ended : s.stop = .endOfText last) (mark : Mark token p)
    (spelled : written.map Lexeme.token = [token]) : Climbs s below 9 p written := by
  refine climbs_atom fun rest _ => ?_
  obtain ⟨lexeme, rfl, same⟩ := spelled_single spelled
  have head : head? ([lexeme] ++ rest) = some token := congrArg some same
  cases mark with
  | root => exact atom_exact.mpr (.root rest head (next_ended ended))
  | wildcard => exact atom_exact.mpr (.wildcard rest head (next_ended ended))
  | this => exact atom_exact.mpr (.operator "this" .this rest head (next_ended ended) rfl)
  | parent => exact atom_exact.mpr (.operator "parent" .parent rest head (next_ended ended) rfl)

-- What stands between the brackets is read up to the closing one.
theorem climbs_brackets (ended : s.stop = .endOfText last) (opening : opens.token = .leftBracket)
    (closing : closes.token = .rightBracket)
    (content : ∀ rest, bracketContent s (level s depth) (written ++ closes :: rest) =
      .ok (p, closes :: rest)) :
    Climbs s (level s (depth + 1)) 9 p (opens :: (written ++ [closes])) := by
  refine climbs_atom fun rest _ => ?_
  have inner : (level s (depth + 1)).bracketBody (written ++ closes :: rest) = .ok (p, rest) :=
    bracketBody_exact.mpr ⟨closes :: rest, content rest, expect_ended ended closing⟩
  rw [List.cons_append, List.append_assoc, List.singleton_append]
  exact atom_exact.mpr (.brackets _ p rest (congrArg some opening) (next_ended ended) inner)

theorem number?_read (ended : s.stop = .endOfText last) (bound : Option Int64)
    (ends : ∀ n, head? rest ≠ some (.number n))
    (spelled : written.map Lexeme.token = boundTokens bound) :
    number? s (written ++ rest) = .ok (bound, rest) := by
  cases bound with
  | none =>
    cases List.map_eq_nil_iff.mp spelled
    exact number?_exact.mpr (.none ends)
  | some n =>
    obtain ⟨lexeme, rfl, same⟩ := spelled_single spelled
    exact number?_exact.mpr (.number n rest (congrArg some same) (next_ended ended))

theorem indexOrSlice_index {i : Int64} (ended : s.stop = .endOfText last)
    (ends : head? rest ≠ some .colon ∧ ∀ n, head? rest ≠ some (.number n))
    (spelled : written.map Lexeme.token = [.number i]) :
    indexOrSlice s (written ++ rest) = .ok (.index i, rest) :=
  indexOrSlice_exact.mpr (.index i rest (number?_read ended (some i) ends.2 spelled) ends.1)

theorem step?_read (ended : s.stop = .endOfText last) (step : Option Int64)
    (ends : head? rest ≠ some .colon ∧ ∀ n, head? rest ≠ some (.number n))
    (spelled : written.map Lexeme.token = stepTokens step) :
    step? s (written ++ rest) = .ok (step, rest) ∧ ∀ n, head? (written ++ rest) ≠ some (.number n) := by
  cases step with
  | none =>
    cases List.map_eq_nil_iff.mp spelled
    exact ⟨if_neg ends.1, ends.2⟩
  | some step =>
    obtain ⟨colon, behind, rfl, isColon, behindSpelled⟩ := List.map_eq_cons_iff.mp spelled
    have head : head? (colon :: behind ++ rest) = some .colon := congrArg some isColon
    constructor
    · unfold step?
      rw [if_pos head, next_ended ended]
      exact number?_read ended (some step) ends.2 behindSpelled
    · rw [head]
      nofun

theorem indexOrSlice_slice {start stop step : Option Int64} (ended : s.stop = .endOfText last)
    (moves : step ≠ some 0) (ends : head? rest ≠ some .colon ∧ ∀ n, head? rest ≠ some (.number n))
    (spelled : written.map Lexeme.token =
      boundTokens start ++ .colon :: (boundTokens stop ++ stepTokens step)) :
    indexOrSlice s (written ++ rest) = .ok (.slice start stop step, rest) := by
  obtain ⟨first, behind, rfl, firstSpelled, behindSpelled⟩ := List.map_eq_append_iff.mp spelled
  obtain ⟨colon, behind, rfl, isColon, behindSpelled⟩ := List.map_eq_cons_iff.mp behindSpelled
  obtain ⟨second, third, rfl, secondSpelled, thirdSpelled⟩ := List.map_eq_append_iff.mp behindSpelled
  obtain ⟨third_read, noNumber⟩ := step?_read ended step ends thirdSpelled
  have head : head? (colon :: (second ++ third) ++ rest) = some .colon := congrArg some isColon
  have second_read := number?_read ended stop noNumber secondSpelled
  rw [← List.append_assoc] at second_read
  have first_read : number? s (first ++ (colon :: (second ++ third) ++ rest)) =
      .ok (start, colon :: (second ++ third) ++ rest) := by
    refine number?_read ended start (fun n number => ?_) firstSpelled
    rw [head] at number
    cases number
  rw [List.append_assoc]
  exact indexOrSlice_exact.mpr (.slice start stop step _ _ _ rest first_read head (next_ended ended)
    second_read third_read moves)

theorem spelled_brackets {opening closing : Token} {tokens : List Token}
    (spelled : written.map Lexeme.token = opening :: (tokens ++ [closing])) :
    ∃ opens inner closes, written = opens :: (inner ++ [closes]) ∧ opens.token = opening ∧
      inner.map Lexeme.token = tokens ∧ closes.token = closing := by
  obtain ⟨opens, behind, rfl, isOpening, behindSpelled⟩ := List.map_eq_cons_iff.mp spelled
  obtain ⟨inner, ending, rfl, innerSpelled, endingSpelled⟩ := List.map_eq_append_iff.mp behindSpelled
  obtain ⟨closes, rfl, isClosing⟩ := spelled_single endingSpelled
  exact ⟨opens, inner, closes, rfl, isOpening, innerSpelled, isClosing⟩

theorem bracketContent_place (read : indexOrSlice s written = .ok (p, rest)) :
    bracketContent s below written = .ok (p, rest) :=
  bracketContent_exact.mpr (.place p rest (indexOrSlice_starts read) read)

theorem closing_apart (closing : closes.token = .rightBracket) :
    head? (closes :: rest) ≠ some .colon ∧ ∀ n, head? (closes :: rest) ≠ some (.number n) := by
  have head : head? (closes :: rest) = some .rightBracket := congrArg some closing
  rw [head]
  exact ⟨nofun, nofun⟩

theorem climbs_index {i : Int64} (ended : s.stop = .endOfText last)
    (spelled : written.map Lexeme.token = [.leftBracket, .number i, .rightBracket]) :
    Climbs s (level s (depth + 1)) 9 (.index i) written := by
  obtain ⟨opens, inner, closes, rfl, opening, innerSpelled, closing⟩ :=
    @spelled_brackets written .leftBracket .rightBracket [.number i] spelled
  exact climbs_brackets ended opening closing fun rest =>
    bracketContent_place (indexOrSlice_index ended (closing_apart closing) innerSpelled)

theorem climbs_slice {start stop step : Option Int64} (ended : s.stop = .endOfText last)
    (moves : step ≠ some 0) (spelled : written.map Lexeme.token = sliceTokens start stop step) :
    Climbs s (level s (depth + 1)) 9 (.slice start stop step) written := by
  by_cases bounded : start = none ∧ stop = none ∧ step = none
  · obtain ⟨rfl, rfl, rfl⟩ := bounded
    obtain ⟨opens, inner, closes, rfl, opening, innerSpelled, closing⟩ :=
      @spelled_brackets written .leftBracket .rightBracket [.star] spelled
    refine climbs_brackets ended opening closing fun rest => ?_
    obtain ⟨star, rfl, same⟩ := spelled_single innerSpelled
    exact bracketContent_exact.mpr (.fullSlice _ (congrArg some same) (next_ended ended))
  · rw [sliceTokens_eq bounded] at spelled
    obtain ⟨opens, inner, closes, rfl, opening, innerSpelled, closing⟩ := spelled_brackets spelled
    exact climbs_brackets ended opening closing fun rest =>
      bracketContent_place (indexOrSlice_slice ended moves (closing_apart closing) innerSpelled)

end TreePath.Grammar
