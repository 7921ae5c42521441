import TreePath.Proofs.Path.Advance
import TreePath.Proofs.Path.Climbing
import TreePath.Proofs.Token.Profiles
namespace TreePath

-- Tokens that are neither names nor numbers.
def Token.IsMark : Token → Prop
  | identifier _ | boolean _ | number _ | real _ => False
  | _ => True

namespace Grammar

variable {α : Type} {first stop : Stop} {below below' : Level} {operand operand' : Nat → Reader Path}
  {tokens tokens' rest : List Lexeme} {token : Token} {expected : Expectation} {p : Path}

theorem alike_demand (alike : Alike stop tokens tokens') :
    Setting.demand ⟨.extended, stop⟩ tokens' = .ok () := by
  cases alike with
  | ended last stopped => exact demand_ended stopped
  | _ => rfl

theorem alike_shared (alike : Alike stop tokens tokens') (head : head? tokens = some token) :
    token.Shared := by
  cases alike with
  | ended => cases head
  | same lexeme rest rest' shared later =>
    cases head
    exact shared
  | truth b =>
    cases head
    change Token.booleanText b ≠ "@"
    cases b <;> decide
  | fraction =>
    cases head
    trivial

theorem alike_noSelf {name : String} (alike : Alike stop tokens tokens')
    (named : (head? tokens).bind Token.fieldName? = some name) : name ≠ "@" := by
  cases head : head? tokens with
  | none =>
    rw [head] at named
    cases named
  | some token =>
    have shared := alike_shared alike head
    rw [head] at named
    replace named : token.fieldName? = some name := named
    cases token
    case identifier word =>
      cases named
      exact shared
    case boolean b => cases shared
    all_goals cases named

theorem alike_mark (token : Token) (mark : token.IsMark) (alike : Alike stop tokens tokens') :
    head? tokens' = some token ↔ head? tokens = some token := by
  cases alike with
  | ended => exact Iff.rfl
  | same => exact Iff.rfl
  | _ =>
    constructor
    all_goals
      intro head
      cases head
      cases mark

theorem alike_name (alike : Alike stop tokens tokens') :
    (head? tokens').bind Token.fieldName? = (head? tokens).bind Token.fieldName? := by
  cases alike <;> rfl

theorem alike_infix (alike : Alike stop tokens tokens') :
    (head? tokens').bind Infix.ofToken? = (head? tokens).bind Infix.ofToken? := by
  cases alike <;> rfl

-- Only between a number and a point the grammars may be at different places of the text.
theorem alike_next (alike : Alike stop tokens tokens')
    (apart : head? rest ≠ some .dot ∨ ∀ n, head? tokens ≠ some (.number n))
    (moved : Setting.next ⟨.core, first⟩ tokens = .ok rest) :
    ∃ rest', Setting.next ⟨.extended, stop⟩ tokens' = .ok rest' ∧ Alike stop rest rest' := by
  cases next_tail moved
  have later : Alike stop tokens.tail tokens'.tail := by
    cases alike with
    | ended last stopped => exact .ended last stopped
    | same lexeme rest rest' shared later => exact later
    | truth b position text rest rest' later => exact later
    | fraction n =>
      rcases apart with apart | apart
      · exact absurd rfl apart
      · exact absurd rfl (apart n)
  refine ⟨tokens'.tail, ?_, later⟩
  unfold Setting.next
  rw [alike_demand later]
  rfl

theorem alike_past (alike : Alike stop tokens tokens') (head : head? tokens = some token)
    (mark : token.IsMark) (moved : Setting.next ⟨.core, first⟩ tokens = .ok rest) :
    ∃ rest', head? tokens' = some token ∧ Setting.next ⟨.extended, stop⟩ tokens' = .ok rest' ∧
      Alike stop rest rest' := by
  have apart : ∀ n, head? tokens ≠ some (.number n) := by
    intro n number
    cases head.symm.trans number
    cases mark
  obtain ⟨rest', moved', later⟩ := alike_next alike (.inr apart) moved
  exact ⟨rest', (alike_mark token mark alike).mpr head, moved', later⟩

theorem alike_named {name : String} (alike : Alike stop tokens tokens')
    (named : (head? tokens).bind Token.fieldName? = some name)
    (moved : Setting.next ⟨.core, first⟩ tokens = .ok rest) :
    ∃ rest', (head? tokens').bind Token.fieldName? = some name ∧
      Setting.next ⟨.extended, stop⟩ tokens' = .ok rest' ∧ Alike stop rest rest' := by
  have apart : ∀ n, head? tokens ≠ some (.number n) := by
    intro n number
    rw [number] at named
    cases named
  obtain ⟨rest', moved', later⟩ := alike_next alike (.inr apart) moved
  exact ⟨rest', (alike_name alike).trans named, moved', later⟩

theorem alike_expect (alike : Alike stop tokens tokens')
    (moved : Setting.expect ⟨.core, first⟩ token expected tokens = .ok rest) (mark : token.IsMark) :
    ∃ rest', Setting.expect ⟨.extended, stop⟩ token expected tokens' = .ok rest' ∧
      Alike stop rest rest' := by
  obtain ⟨head, moved⟩ := expect_exact.mp moved
  obtain ⟨rest', head', moved', later⟩ := alike_past alike head mark moved
  exact ⟨rest', expect_exact.mpr ⟨head', moved'⟩, later⟩

-- The extended grammar reads the same, and leaves like tokens.
def Likewise (stop : Stop) (result : Except SyntaxError (α × List Lexeme)) (a : α)
    (rest : List Lexeme) : Prop :=
  ∃ rest', result = .ok (a, rest') ∧ Alike stop rest rest'

theorem moreNames_likewise {names : List String} (alike : Alike stop tokens tokens')
    (read : moreNames ⟨.core, first⟩ tokens = .ok (names, rest)) :
    Likewise stop (moreNames ⟨.extended, stop⟩ tokens') names rest := by
  induction moreNames_exact.mp read generalizing tokens' with
  | ends tokens apart =>
    refine ⟨tokens', moreNames_exact.mpr (.ends tokens' fun comma' => ?_), alike⟩
    have comma := (alike_mark .comma trivial alike).mp comma'
    obtain ⟨behind, moved, unnamed⟩ := apart comma
    obtain ⟨behind', _, moved', inside⟩ := alike_past alike comma trivial moved
    rw [← alike_name inside] at unnamed
    exact ⟨behind', moved', unnamed⟩
  | name tokens behind later name names rest comma moved named again more ih =>
    obtain ⟨behind', comma', moved', inside⟩ := alike_past alike comma trivial moved
    obtain ⟨later', named', again', last⟩ := alike_named inside named again
    obtain ⟨rest', more', ending⟩ := ih last (moreNames_exact.mpr more)
    exact ⟨rest', moreNames_exact.mpr (.name tokens' behind' later' name names rest' comma' moved' named'
      again' (moreNames_exact.mp more')), ending⟩

theorem fieldList_likewise {name : String} (alike : Alike stop tokens tokens')
    (read : fieldList ⟨.core, first⟩ name tokens = .ok (p, rest)) :
    Likewise stop (fieldList ⟨.extended, stop⟩ name tokens') p rest := by
  obtain ⟨⟨_, _⟩, more, same⟩ := bind_ok read
  cases same
  obtain ⟨rest', more', later⟩ := moreNames_likewise alike more
  exact ⟨rest', fieldList_read more', later⟩

-- No number that the core grammar reads stands before a point.
theorem number?_likewise {bound : Option Int64} (alike : Alike stop tokens tokens')
    (apart : head? rest ≠ some .dot) (read : number? ⟨.core, first⟩ tokens = .ok (bound, rest)) :
    Likewise stop (number? ⟨.extended, stop⟩ tokens') bound rest := by
  cases number?_exact.mp read with
  | number n rest head moved =>
    obtain ⟨rest', moved', later⟩ := alike_next alike (.inl apart) moved
    have head' : head? tokens' = some (.number n) := by
      cases alike with
      | ended => cases head
      | same => exact head
      | truth => cases head
      | fraction =>
        cases next_tail moved
        exact absurd rfl apart
    exact ⟨rest', number?_exact.mpr (.number n rest' head' moved'), later⟩
  | none unnumbered =>
    have apart' : ∀ n, head? tokens' ≠ some (.number n) := by
      cases alike with
      | same => exact unnumbered
      | _ => exact nofun
    exact ⟨tokens', number?_exact.mpr (.none apart'), alike⟩

theorem operatorPath_core {text : String} {position position' : Position}
    (read : operatorPath ⟨.core, first⟩ text position = .ok p) :
    operatorPath ⟨.extended, stop⟩ text position' = .ok p := by
  unfold operatorPath at read ⊢
  split at read
  · rename_i this
    rw [if_pos this]
    exact read
  split at read
  · rename_i noThis parent
    rw [if_neg noThis, if_pos parent]
    exact read
  · cases read

structure Level.Widens (first stop : Stop) (below below' : Level) : Prop where
  core : below.Crosses (Advances ⟨.core, first⟩)
  extended : below'.Crosses (Advances ⟨.extended, stop⟩)
  expression : ∀ {tokens tokens' p rest}, Alike stop tokens tokens' → head? rest ≠ some .star →
    below.expression tokens = .ok (p, rest) → Likewise stop (below'.expression tokens') p rest
  bracketBody : ∀ {tokens tokens' p rest}, Alike stop tokens tokens' →
    below.bracketBody tokens = .ok (p, rest) → Likewise stop (below'.bracketBody tokens') p rest

theorem atom_likewise (levels : Level.Widens first stop below below') (alike : Alike stop tokens tokens')
    (read : atom ⟨.core, first⟩ below tokens = .ok (p, rest)) :
    Likewise stop (atom ⟨.extended, stop⟩ below' tokens') p rest := by
  cases atom_exact.mp read with
  | this rest named extended => cases extended
  | fields name behind p rest named plain moved list =>
    obtain ⟨behind', named', moved', inside⟩ := alike_named alike named moved
    obtain ⟨rest', list', later⟩ := fieldList_likewise inside list
    have noSelf : name ≠ "@" := alike_noSelf alike named
    exact ⟨rest', atom_exact.mpr (.fields name behind' p rest' named' (fun self => noSelf self.1) moved'
      list'), later⟩
  | wildcard rest head moved =>
    obtain ⟨rest', head', moved', later⟩ := alike_past alike head trivial moved
    exact ⟨rest', atom_exact.mpr (.wildcard rest' head' moved'), later⟩
  | root rest head moved =>
    obtain ⟨rest', head', moved', later⟩ := alike_past alike head trivial moved
    exact ⟨rest', atom_exact.mpr (.root rest' head' moved'), later⟩
  | operator text p rest head moved operator =>
    obtain ⟨rest', head', moved', later⟩ := alike_past alike head trivial moved
    exact ⟨rest', atom_exact.mpr (.operator text p rest' head' moved' (operatorPath_core operator)), later⟩
  | brackets behind p rest head moved body =>
    obtain ⟨behind', head', moved', inside⟩ := alike_past alike head trivial moved
    obtain ⟨rest', body', later⟩ := levels.bracketBody inside body
    exact ⟨rest', atom_exact.mpr (.brackets behind' p rest' head' moved' body'), later⟩
  | parens behind p closing rest head moved inner closed =>
    obtain ⟨behind', head', moved', inside⟩ := alike_past alike head trivial moved
    have apart : head? closing ≠ some .star := by
      rw [(expect_exact.mp closed).1]
      nofun
    obtain ⟨closing', inner', ending⟩ := levels.expression inside apart inner
    obtain ⟨rest', closed', later⟩ := alike_expect ending closed trivial
    exact ⟨rest', atom_exact.mpr (.parens behind' p closing' rest' head' moved' inner' closed'), later⟩

-- In either grammar every turn goes past a token, so there are enough turns if there are no fewer than
-- tokens.
theorem pathTail_likewise {least turns turns' : Nat} {left : Path}
    (levels : Level.Widens first stop below below')
    (advancing : ∀ bound, Crosses (Advances ⟨.core, first⟩) (operand bound))
    (advancing' : ∀ bound, Crosses (Advances ⟨.extended, stop⟩) (operand' bound))
    (operands : ∀ bound {tokens tokens' p rest}, Alike stop tokens tokens' →
      operand bound tokens = .ok (p, rest) → Likewise stop (operand' bound tokens') p rest)
    (enough : tokens.length ≤ turns) (enough' : tokens'.length ≤ turns')
    (alike : Alike stop tokens tokens')
    (read : pathTail ⟨.core, first⟩ below operand least turns left tokens = .ok (p, rest)) :
    Likewise stop (pathTail ⟨.extended, stop⟩ below' operand' least turns' left tokens') p rest := by
  induction turns generalizing turns' left tokens tokens' with
  | zero =>
    cases read
    cases List.length_eq_zero_iff.mp (Nat.le_zero.mp enough)
    cases alike with
    | ended last stopped => exact ⟨[], pathTail_stays nofun nofun, .ended last stopped⟩
  | succ turns ih =>
    cases pathTail_exact.mp read with
    | ends bracket looser =>
      have bracket' : head? tokens' = some .leftBracket → bracketTightness < least :=
        fun head => bracket ((alike_mark .leftBracket trivial alike).mp head)
      rw [← alike_infix alike] at looser
      exact ⟨tokens', pathTail_stays bracket' looser, alike⟩
    | brackets behind segment later p rest head tight moved body more =>
      obtain ⟨behind', head', moved', inside⟩ := alike_past alike head trivial moved
      obtain ⟨later', body', alikeLater⟩ := levels.bracketBody inside body
      have shorter := (levels.core.bracketBody body).length_le
      have shorter' := (levels.extended.bracketBody body').length_le
      rw [next_length moved head] at enough
      rw [next_length moved' head'] at enough'
      cases turns' with
      | zero => omega
      | succ turns' =>
        obtain ⟨rest', more', alikeRest⟩ := @ih _ _ turns' _ (by omega) (by omega) alikeLater more
        exact ⟨rest', pathTail_exact.mpr (.brackets behind' segment later' p rest' head' tight moved' body'
          more'), alikeRest⟩
    | operator operator behind right later p rest sign tight moved second more =>
      have head := sign_head sign
      obtain ⟨behind', head', moved', inside⟩ := alike_past alike head (by cases operator <;> trivial) moved
      obtain ⟨later', second', alikeLater⟩ := operands _ inside second
      have shorter := (advancing _ second).length_le
      have shorter' := (advancing' _ second').length_le
      rw [next_length moved head] at enough
      rw [next_length moved' head'] at enough'
      cases turns' with
      | zero => omega
      | succ turns' =>
        obtain ⟨rest', more', alikeRest⟩ := @ih _ _ turns' _ (by omega) (by omega) alikeLater more
        rw [← alike_infix alike] at sign
        exact ⟨rest', pathTail_exact.mpr (.operator operator behind' right later' p rest' sign tight moved'
          second' more'), alikeRest⟩

theorem pathWithin_likewise {tiers least : Nat} (levels : Level.Widens first stop below below')
    (alike : Alike stop tokens tokens')
    (read : pathWithin ⟨.core, first⟩ below tiers least tokens = .ok (p, rest)) :
    Likewise stop (pathWithin ⟨.extended, stop⟩ below' tiers least tokens') p rest := by
  induction tiers generalizing least tokens tokens' p rest with
  | zero => exact atom_likewise levels alike read
  | succ tiers ih =>
    unfold pathWithin at read ⊢
    obtain ⟨⟨left, behind⟩, first, more⟩ := bind_ok read
    obtain ⟨behind', first', inside⟩ := atom_likewise levels alike first
    rw [first']
    exact pathTail_likewise levels (fun _ => pathWithin_crosses advances_crossing levels.core)
      (fun _ => pathWithin_crosses advances_crossing levels.extended) (fun _ => ih) (Nat.le_refl _)
      (Nat.le_refl _) inside more

-- Without arithmetic an expression is a path.
theorem expression_core (read : expression ⟨.core, first⟩ below tokens = .ok (p, rest)) :
    path ⟨.core, first⟩ below tokens = .ok (p, rest) := by
  obtain ⟨⟨o, behind⟩, inner, same⟩ := bind_ok read
  obtain ⟨⟨left, _⟩, single, alone⟩ := bind_ok inner
  cases alone
  cases operand_parts single with
  | path q rest plain =>
    cases same
    exact plain
  | number | real => cases same

-- Among the tokens of the core grammar only the star is an operator of arithmetic.
theorem alike_alone (alike : Alike stop tokens tokens') (apart : head? tokens ≠ some .star) :
    arithmeticOperator? ⟨.extended, stop⟩ tokens' = none := by
  have extended : Setting.isExtended ⟨.extended, stop⟩ = true := rfl
  unfold arithmeticOperator?
  rw [if_pos extended]
  split
  · rename_i plus
    cases alike_shared alike ((alike_mark .plus trivial alike).mp plus)
  · rename_i star
    exact absurd ((alike_mark .star trivial alike).mp star) apart
  · rename_i slash
    cases alike_shared alike ((alike_mark .slash trivial alike).mp slash)
  · rfl

theorem expression_likewise (levels : Level.Widens first stop below below')
    (alike : Alike stop tokens tokens') (apart : head? rest ≠ some .star)
    (read : expression ⟨.core, first⟩ below tokens = .ok (p, rest)) :
    Likewise stop (expression ⟨.extended, stop⟩ below' tokens') p rest := by
  obtain ⟨rest', read', later⟩ := pathWithin_likewise levels alike (expression_core read)
  exact ⟨rest', expression_path read' (alike_alone later apart), later⟩

theorem step?_likewise {step : Option Int64} (alike : Alike stop tokens tokens')
    (apart : head? rest ≠ some .dot) (read : step? ⟨.core, first⟩ tokens = .ok (step, rest)) :
    Likewise stop (step? ⟨.extended, stop⟩ tokens') step rest := by
  unfold step? at read ⊢
  split at read
  · rename_i colon
    obtain ⟨_, moved, read⟩ := bind_ok read
    obtain ⟨behind', colon', moved', inside⟩ := alike_past alike colon trivial moved
    rw [if_pos colon', moved']
    exact number?_likewise inside apart read
  · rename_i noColon
    cases read
    rw [if_neg fun colon' => noColon ((alike_mark .colon trivial alike).mp colon')]
    exact ⟨tokens', rfl, alike⟩

theorem indexOrSlice_likewise (alike : Alike stop tokens tokens') (apart : head? rest ≠ some .dot)
    (read : indexOrSlice ⟨.core, first⟩ tokens = .ok (p, rest)) :
    Likewise stop (indexOrSlice ⟨.extended, stop⟩ tokens') p rest := by
  cases indexOrSlice_exact.mp read with
  | index i rest read ends =>
    obtain ⟨rest', read', later⟩ := number?_likewise alike apart read
    have ends' : head? rest' ≠ some .colon :=
      fun colon' => ends ((alike_mark .colon trivial later).mp colon')
    exact ⟨rest', indexOrSlice_exact.mpr (.index i rest' read' ends'), later⟩
  | slice start stop step colon behind later rest first isColon moved second third moves =>
    have noPoint : head? colon ≠ some .dot := by
      rw [isColon]
      nofun
    obtain ⟨colon', first', inside⟩ := number?_likewise alike noPoint first
    obtain ⟨behind', isColon', moved', ahead⟩ := alike_past inside isColon trivial moved
    have noPointAgain : head? later ≠ some .dot := by
      unfold step? at third
      split at third
      · rename_i again
        rw [again]
        nofun
      · cases third
        exact apart
    obtain ⟨later', second', behindStop⟩ := number?_likewise ahead noPointAgain second
    obtain ⟨rest', third', ending⟩ := step?_likewise behindStop apart third
    exact ⟨rest', indexOrSlice_exact.mpr (.slice start stop step colon' behind' later' rest' first' isColon'
      moved' second' third' moves), ending⟩

theorem bracketContent_likewise (alike : Alike stop tokens tokens') (apart : head? rest ≠ some .dot)
    (read : bracketContent ⟨.core, first⟩ below tokens = .ok (p, rest)) :
    Likewise stop (bracketContent ⟨.extended, stop⟩ below' tokens') p rest := by
  cases bracketContent_exact.mp read with
  | fullSlice rest head moved =>
    obtain ⟨rest', head', moved', later⟩ := alike_past alike head trivial moved
    exact ⟨rest', bracketContent_exact.mpr (.fullSlice rest' head' moved'), later⟩
  | filter behind filter rest head => cases alike_shared alike head
  | sort keys rest head =>
    rcases head with head | head
    all_goals cases alike_shared alike head
  | place p rest head read =>
    obtain ⟨rest', read', later⟩ := indexOrSlice_likewise alike apart read
    exact ⟨rest', bracketContent_exact.mpr (.place p rest' (indexOrSlice_starts read') read'), later⟩
  | fields name behind p rest named moved list =>
    obtain ⟨behind', named', moved', inside⟩ := alike_named alike named moved
    obtain ⟨rest', list', later⟩ := fieldList_likewise inside list
    exact ⟨rest', bracketContent_exact.mpr (.fields name behind' p rest' named' moved' list'), later⟩

theorem bracketBody_likewise (alike : Alike stop tokens tokens')
    (read : bracketBody ⟨.core, first⟩ below tokens = .ok (p, rest)) :
    Likewise stop (bracketBody ⟨.extended, stop⟩ below' tokens') p rest := by
  obtain ⟨closing, content, closed⟩ := bracketBody_exact.mp read
  have apart : head? closing ≠ some .dot := by
    rw [(expect_exact.mp closed).1]
    nofun
  obtain ⟨closing', content', ending⟩ := bracketContent_likewise alike apart content
  obtain ⟨rest', closed', later⟩ := alike_expect ending closed trivial
  exact ⟨rest', bracketBody_exact.mpr ⟨closing', content', closed'⟩, later⟩

theorem level_widens (depth : Nat) :
    Level.Widens first stop (level ⟨.core, first⟩ depth) (level ⟨.extended, stop⟩ depth) := by
  induction depth with
  | zero => exact ⟨level_advances 0, level_advances 0, nofun, nofun⟩
  | succ depth ih =>
    exact ⟨level_advances (depth + 1), level_advances (depth + 1), expression_likewise ih,
      bracketBody_likewise⟩

theorem whole_likewise (alike : Alike stop tokens tokens')
    (read : whole ⟨.core, first⟩ tokens = .ok p) : whole ⟨.extended, stop⟩ tokens' = .ok p := by
  obtain ⟨_, _, read⟩ := bind_ok read
  obtain ⟨⟨q, rest⟩, inner, read⟩ := bind_ok read
  dsimp only at read
  split at read
  · rename_i all
    cases read
    subst all
    have noStar : head? [] ≠ some .star := nofun
    obtain ⟨rest', inner', later⟩ := expression_likewise (level_widens maxNesting) alike noStar inner
    cases later
    unfold whole
    rw [alike_demand alike]
    dsimp only [bind, Except.bind]
    rw [inner']
    rfl
  · exact absurd read unexpected_rejects

end Grammar

-- Every text of the core grammar is a text of the extended grammar and writes the same path there, unless
-- it has the name that is no name there.
theorem Path.ofText_extended (text : String) (p : Path)
    (noSelf : ∀ lexeme ∈ (TokenStream.ofText .core text).lexemes, lexeme.token ≠ .identifier "@")
    (read : Path.ofText .core text = .ok p) : Path.ofText .extended text = .ok p := by
  obtain ⟨last, stopped⟩ := Grammar.whole_ended read
  exact Grammar.whole_likewise (alike_ofText stopped noSelf) read

-- Both grammars read a truth value as a name, a star as a wildcard, and brackets with numbers.
theorem Path.ofText_extended_truth :
    let text := "true..(a,b.*|$[-1][1:2]) where c"
    let places := Path.child (.fields ["a", "b"]) (.union [.wildcard, .root])
    let slice := Path.child (.child places (.index (-1))) (.slice (some 1) (some 2) none)
    let p := Path.descendants (.fields ["true"]) (.whereSome slice (.fields ["c"]))
    (∀ lexeme ∈ (TokenStream.ofText .core text).lexemes, lexeme.token ≠ .identifier "@") ∧
      Path.ofText .core text = .ok p ∧ Path.ofText .extended text = .ok p := by
  intro text places slice p
  have noSelf : ∀ lexeme ∈ (TokenStream.ofText .core text).lexemes, lexeme.token ≠ .identifier "@" := by
    decide +kernel
  have read : Path.ofText .core text = .ok p := by
    unfold text p slice places
    rfl
  exact ⟨noSelf, read, Path.ofText_extended text p noSelf read⟩

end TreePath
