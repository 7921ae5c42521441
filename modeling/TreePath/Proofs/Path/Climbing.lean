import TreePath.Proofs.Path.Rules
import TreePath.Proofs.Path.Words
namespace TreePath.Grammar

variable {s : Setting} {last : Position} {below : Level} {operand : Nat → Reader Path}
  {least tightness turns tiers depth : Nat} {p left right : Path} {rest written : List Lexeme}
  {lexeme opens closes : Lexeme} {operator : Infix} {token : Token}

-- Once the tokens have come to the end of the text, going on never brings a fault to light.
theorem demand_ended (ended : s.stop = .endOfText last) : s.demand rest = .ok () := by
  unfold Setting.demand
  rw [ended]
  split
  · rename_i fault
    cases fault
  · rfl

theorem next_ended (ended : s.stop = .endOfText last) : s.next rest = .ok rest.tail := by
  unfold Setting.next
  rw [demand_ended ended]
  rfl

theorem expect_ended {expected : Expectation} (ended : s.stop = .endOfText last)
    (same : lexeme.token = token) : s.expect token expected (lexeme :: rest) = .ok rest :=
  expect_exact.mpr ⟨congrArg some same, next_ended ended⟩

theorem spelled_single (spelled : written.map Lexeme.token = [token]) :
    ∃ lexeme : Lexeme, written = [lexeme] ∧ lexeme.token = token := by
  obtain ⟨lexeme, others, rfl, same, none⟩ := List.map_eq_cons_iff.mp spelled
  cases List.map_eq_nil_iff.mp none
  exact ⟨lexeme, rfl, same⟩

-- Nothing goes on with a path that is read with this bound: no comma and name, no bracket, and no operator
-- that binds so tightly.
structure Ends (least : Nat) (rest : List Lexeme) : Prop where
  comma : head? rest = some .comma → (head? rest.tail).bind Token.fieldName? = none
  bracket : head? rest ≠ some .leftBracket
  looser : ∀ operator, (head? rest).bind Infix.ofToken? = some operator → operator.tightness < least

theorem Infix.tightness_bounds (operator : Infix) : 3 ≤ operator.tightness ∧ operator.tightness ≤ 6 := by
  cases operator <;> decide

theorem Infix.ofToken?_token (operator : Infix) : Infix.ofToken? operator.token = some operator := by
  cases operator <;> rfl

theorem combine_union (apart : ∀ alternatives, left ≠ .union alternatives) :
    Infix.union.combine left right = .union [left, right] := by
  cases left
  case union alternatives => exact absurd rfl (apart alternatives)
  all_goals rfl

theorem sign_head {operator : Infix} (sign : (head? rest).bind Infix.ofToken? = some operator) :
    head? rest = some operator.token := by
  cases head : head? rest with
  | none =>
    rw [head] at sign
    cases sign
  | some token =>
    rw [head] at sign
    replace sign : Infix.ofToken? token = some operator := sign
    cases token <;> cases sign <;> rfl

theorem Ends.mono (ends : Ends least rest) (le : least ≤ tightness) : Ends tightness rest :=
  ⟨ends.comma, ends.bracket, fun operator here => Nat.lt_of_lt_of_le (ends.looser operator here) le⟩

theorem Ends.atom (ends : Ends least rest) : Ends 7 rest :=
  ⟨ends.comma, ends.bracket, fun operator _ => Nat.lt_succ_of_le operator.tightness_bounds.2⟩

theorem ends_nil : Ends least [] :=
  ⟨nofun, nofun, nofun⟩

theorem ends_token (head : head? rest = some token) (noComma : token ≠ .comma) (noBracket : token ≠ .leftBracket)
    (looser : ∀ operator, Infix.ofToken? token = some operator → operator.tightness < least) : Ends least rest := by
  refine ⟨fun comma => ?_, fun bracket => ?_, fun operator sign => looser operator ?_⟩
  · exact absurd (Option.some.inj (head.symm.trans comma)) noComma
  · exact absurd (Option.some.inj (head.symm.trans bracket)) noBracket
  · rw [head] at sign
    exact sign

theorem ends_paren (closing : closes.token = .rightParen) : Ends least (closes :: rest) :=
  ends_token (congrArg some closing) nofun nofun nofun

theorem ends_binary (sign : lexeme.token = operator.token) (looser : operator.tightness < least) :
    Ends least (lexeme :: rest) := by
  have head : head? (lexeme :: rest) = some operator.token := congrArg some sign
  refine ends_token head (by cases operator <;> nofun) (by cases operator <;> nofun) fun other same => ?_
  rw [Infix.ofToken?_token] at same
  cases same
  exact looser

theorem pathTail_ends (ends : Ends least rest) :
    pathTail s below operand least turns p rest = .ok (p, rest) :=
  pathTail_stays (fun head => absurd head ends.bracket) ends.looser

theorem pathTail_binary (ended : s.stop = .endOfText last) (sign : lexeme.token = operator.token)
    (tight : least ≤ operator.tightness) {behind : List Lexeme}
    (read : operand (operator.tightness + 1) behind = .ok (right, rest)) :
    pathTail s below operand least (turns + 1) left (lexeme :: behind) =
      pathTail s below operand least turns (operator.combine left right) rest := by
  have head : head? (lexeme :: behind) = some operator.token := congrArg some sign
  rw [pathTail_operator (by rw [head]; exact Infix.ofToken?_token operator) (Nat.not_lt.mpr tight),
    next_ended ended]
  dsimp only [bind, Except.bind, List.tail_cons]
  rw [read]

-- These tokens are read as this path, whatever bound the reader has that the path meets: what then is
-- left to read is what stands behind it. The right operands of an operator have a tier less, and a
-- tighter bound, so the tiers last up to the tightest one.
def Climbs (s : Setting) (below : Level) (tightness : Nat) (p : Path) (written : List Lexeme) : Prop :=
  ∀ tiers least rest, least ≤ tightness → 7 ≤ tiers + max least 3 → Ends (tightness + 1) rest →
    ∃ turns, rest.length ≤ turns ∧ pathWithin s below tiers least (written ++ rest) =
      pathTail s below (pathWithin s below (tiers - 1)) least turns p rest

theorem Climbs.within (climbs : Climbs s below tightness p written) (tight : least ≤ tightness)
    (enough : 7 ≤ tiers + max least 3) (ends : Ends least rest) :
    pathWithin s below tiers least (written ++ rest) = .ok (p, rest) := by
  obtain ⟨turns, _, same⟩ := climbs tiers least rest tight enough (ends.mono (by omega))
  rw [same, pathTail_ends ends]

theorem climbs_atom (read : ∀ rest, Ends 7 rest → atom s below (written ++ rest) = .ok (p, rest)) :
    Climbs s below 9 p written := by
  intro tiers least rest tight enough ends
  have first := read rest ends.atom
  refine ⟨rest.length, Nat.le_refl _, ?_⟩
  cases tiers with
  | zero =>
    have bound : 7 ≤ least := by omega
    rw [pathWithin, first, pathTail_ends (ends.atom.mono bound)]
  | succ tiers =>
    rw [pathWithin, first]
    rfl

theorem climbs_binary {before behind : List Lexeme} {tightLeft tightRight : Nat} (operator : Infix)
    (ended : s.stop = .endOfText last) (sign : lexeme.token = operator.token)
    (first : Climbs s below tightLeft left before) (second : Climbs s below tightRight right behind)
    (atLeft : operator.tightness ≤ tightLeft) (atRight : operator.tightness < tightRight) :
    Climbs s below operator.tightness (operator.combine left right) (before ++ lexeme :: behind) := by
  intro tiers least rest tight enough ends
  have bounds := operator.tightness_bounds
  obtain ⟨turns, long, same⟩ := first tiers least (lexeme :: (behind ++ rest))
    (Nat.le_trans tight atLeft) enough (ends_binary sign (by omega))
  have right_read : pathWithin s below (tiers - 1) (operator.tightness + 1) (behind ++ rest) =
      .ok (right, rest) := second.within atRight (by omega) ends
  cases turns with
  | zero => cases long
  | succ turns =>
    refine ⟨turns, ?_, ?_⟩
    · simp only [List.length_cons, List.length_append] at long
      omega
    · rw [List.append_assoc, List.cons_append, same, pathTail_binary ended sign tight right_read]

theorem path_read (climbs : Climbs s below tightness p written) (ends : Ends 0 rest) :
    path s below (written ++ rest) = .ok (p, rest) :=
  climbs.within (Nat.zero_le _) (by decide) ends

theorem atom_starts (read : atom s below written = .ok (p, rest)) (head : head? written = some token) :
    token.isNumber = false := by
  cases number : token.isNumber with
  | false => rfl
  | true =>
    have noName : token.fieldName? = none := Token.fieldName?_of_isNumber number
    cases atom_exact.mp read with
    | this behind named =>
      rw [head, Option.bind_some, noName] at named
      cases named
    | fields name behind q rest named =>
      rw [head, Option.bind_some, noName] at named
      cases named
    | wildcard behind here =>
      cases head.symm.trans here
      cases number
    | root behind here =>
      cases head.symm.trans here
      cases number
    | operator text q rest here =>
      cases head.symm.trans here
      cases number
    | brackets behind q rest here =>
      cases head.symm.trans here
      cases number
    | parens behind q closing rest here =>
      cases head.symm.trans here
      cases number

-- No path starts with a number, so what is read as a path is no literal of arithmetic.
theorem pathWithin_starts (read : pathWithin s below tiers least written = .ok (p, rest))
    (head : head? written = some token) : token.isNumber = false := by
  cases tiers with
  | zero => exact atom_starts read head
  | succ tiers =>
    obtain ⟨⟨_, _⟩, first, _⟩ := bind_ok read
    exact atom_starts first head

theorem operand_read (read : path s below written = .ok (p, rest)) :
    Grammar.operand s below written = .ok (.path p, rest) := by
  unfold Grammar.operand
  rw [read]
  split
  · rename_i n head
    cases pathWithin_starts read head
  · rename_i x head
    cases pathWithin_starts read head
  · rfl

theorem expression_path (read : path s below written = .ok (p, rest))
    (alone : arithmeticOperator? s rest = none) : expression s below written = .ok (p, rest) := by
  unfold expression arithmetic
  rw [operand_read read]
  dsimp only [bind, Except.bind]
  rw [alone]
  rfl

theorem expression_read (climbs : Climbs s below tightness p written) (ends : Ends 0 rest)
    (alone : arithmeticOperator? s rest = none) :
    expression s below (written ++ rest) = .ok (p, rest) :=
  expression_path (path_read climbs ends) alone

-- What stands between the brackets is read up to the closing one.
theorem climbs_enclosed (ended : s.stop = .endOfText last) (opening : opens.token = .leftParen)
    (closing : closes.token = .rightParen) (inner : ∀ rest,
      expression s (level s depth) (written ++ closes :: rest) = .ok (p, closes :: rest)) :
    Climbs s (level s (depth + 1)) 9 p (opens :: (written ++ [closes])) := by
  refine climbs_atom fun rest _ => ?_
  rw [List.cons_append, List.append_assoc, List.singleton_append]
  exact atom_exact.mpr (.parens _ p _ rest (congrArg some opening) (next_ended ended) (inner rest)
    (expect_ended ended closing))

theorem climbs_parens (ended : s.stop = .endOfText last) (opening : opens.token = .leftParen)
    (closing : closes.token = .rightParen) (climbs : Climbs s (level s depth) tightness p written) :
    Climbs s (level s (depth + 1)) 9 p (opens :: (written ++ [closes])) := by
  refine climbs_enclosed ended opening closing fun rest => expression_read climbs (ends_paren closing) ?_
  have head : head? (closes :: rest) = some .rightParen := congrArg some closing
  unfold arithmeticOperator?
  rw [head]
  split <;> rfl

end TreePath.Grammar
