import TreePath.Proofs.Path.ComputedRules
namespace TreePath

def Token.isRound : Token → Bool
  | leftParen => true
  | rightParen => true
  | _ => false

namespace Grammar

variable {α β : Type} {s : Setting} {R : List Lexeme → List Lexeme → Prop} {below : Level}
  {operand : Nat → Reader Path} {tokens behind rest : List Lexeme} {token : Token} {expected : Expectation}
  {p : Path}

-- A relation of the tokens before and behind what is read, on every way through the grammar: past single
-- tokens that are no round brackets, and past round brackets as a whole.
structure Crossing (s : Setting) (R : List Lexeme → List Lexeme → Prop) : Prop where
  refl : ∀ tokens, R tokens tokens
  trans : ∀ {tokens behind rest}, R tokens behind → R behind rest → R tokens rest
  token : ∀ {token tokens rest}, head? tokens = some token → token.isRound = false → s.next tokens = .ok rest →
    R tokens rest
  parens : ∀ {tokens behind closing rest}, head? tokens = some .leftParen → s.next tokens = .ok behind →
    R behind closing → s.expect .rightParen .closingParen closing = .ok rest → R tokens rest

-- Whatever the reader accepts, the tokens behind it are so related to those that it was given.
def Crosses (R : List Lexeme → List Lexeme → Prop) (reader : Reader α) : Prop :=
  ∀ {tokens a rest}, reader tokens = .ok (a, rest) → R tokens rest

structure Level.Crosses (R : List Lexeme → List Lexeme → Prop) (below : Level) : Prop where
  arithmetic : Grammar.Crosses R below.arithmetic
  expression : Grammar.Crosses R below.expression
  bracketBody : Grammar.Crosses R below.bracketBody
  conditions : Grammar.Crosses R below.conditions

namespace Crossing

-- A token that means something to a function that round brackets mean nothing to.
theorem found (crossing : Crossing s R) {use : Token → Option β} {b : β}
    (noRound : ∀ token : Token, token.isRound = true → use token = none)
    (found : (head? tokens).bind use = some b) (moved : s.next tokens = .ok rest) : R tokens rest := by
  obtain ⟨token, head, used⟩ := Option.bind_eq_some_iff.mp found
  cases round : token.isRound with
  | false => exact crossing.token head round moved
  | true =>
    rw [noRound token round] at used
    cases used

theorem named (crossing : Crossing s R) {name : String} (found : (head? tokens).bind Token.fieldName? = some name)
    (moved : s.next tokens = .ok rest) : R tokens rest :=
  crossing.found (fun token round => by cases token <;> first | rfl | cases round) found moved

theorem expect (crossing : Crossing s R) (single : token.isRound = false)
    (moved : s.expect token expected tokens = .ok rest) : R tokens rest :=
  crossing.token (expect_exact.mp moved).1 single (expect_exact.mp moved).2

end Crossing

section Productions

variable (crossing : Crossing s R)
include crossing

theorem moreNames_crosses : Crosses R (moreNames s) := by
  intro tokens names rest read
  induction moreNames_exact.mp read with
  | ends => exact crossing.refl _
  | name tokens behind later name names rest comma moved named again more ih =>
    exact crossing.trans (crossing.trans (crossing.token comma rfl moved) (crossing.named named again))
      (ih (moreNames_exact.mpr more))

theorem fieldList_crosses {first : String} : Crosses R (fieldList s first) := by
  intro tokens p rest read
  obtain ⟨⟨_, _⟩, more, same⟩ := bind_ok read
  cases same
  exact moreNames_crosses crossing more

theorem number?_crosses : Crosses R (number? s) := by
  intro tokens bound rest read
  cases number?_exact.mp read with
  | number n rest head moved => exact crossing.token head rfl moved
  | none => exact crossing.refl _

theorem atom_crosses (levels : below.Crosses R) : Crosses R (atom s below) := by
  intro tokens p rest read
  cases atom_exact.mp read with
  | this rest named extended moved => exact crossing.named named moved
  | fields name behind p rest named plain moved list =>
    exact crossing.trans (crossing.named named moved) (fieldList_crosses crossing list)
  | wildcard rest head moved => exact crossing.token head rfl moved
  | root rest head moved => exact crossing.token head rfl moved
  | operator text p rest head moved => exact crossing.token head rfl moved
  | brackets behind p rest head moved body =>
    exact crossing.trans (crossing.token head rfl moved) (levels.bracketBody body)
  | parens behind p closing rest head moved inner closed =>
    exact crossing.parens head moved (levels.expression inner) closed

theorem pathTail_crosses {least turns : Nat} {left : Path} (levels : below.Crosses R)
    (operands : ∀ bound, Crosses R (operand bound)) :
    Crosses R (pathTail s below operand least turns left) := by
  intro tokens p rest read
  induction turns generalizing left tokens with
  | zero =>
    cases read
    exact crossing.refl _
  | succ turns ih =>
    cases pathTail_exact.mp read with
    | ends => exact crossing.refl _
    | brackets behind segment later p rest head tight moved body more =>
      exact crossing.trans (crossing.trans (crossing.token head rfl moved) (levels.bracketBody body)) (ih more)
    | operator operator behind right later p rest sign tight moved second more =>
      have past := crossing.found (fun token round => by cases token <;> first | rfl | cases round) sign moved
      exact crossing.trans (crossing.trans past (operands _ second)) (ih more)

theorem pathWithin_crosses {tiers least : Nat} (levels : below.Crosses R) :
    Crosses R (pathWithin s below tiers least) := by
  induction tiers generalizing least with
  | zero => exact atom_crosses crossing levels
  | succ tiers ih =>
    intro tokens p rest read
    unfold pathWithin at read
    obtain ⟨⟨_, _⟩, first, read⟩ := bind_ok read
    exact crossing.trans (atom_crosses crossing levels first)
      (pathTail_crosses crossing levels (fun _ => ih) read)

theorem path_crosses (levels : below.Crosses R) : Crosses R (path s below) :=
  pathWithin_crosses crossing levels

theorem operand_crosses (levels : below.Crosses R) : Crosses R (Grammar.operand s below) := by
  intro tokens o rest read
  cases operand_parts read with
  | path p rest inner => exact path_crosses crossing levels inner
  | number n rest extended head moved => exact crossing.token head rfl moved
  | real x rest head moved => exact crossing.token head rfl moved

theorem arithmetic_crosses (levels : below.Crosses R) : Crosses R (arithmetic s below) := by
  intro tokens o rest read
  cases arithmetic_exact.mp read with
  | alone o rest single ends => exact operand_crosses crossing levels single
  | binary left behind operator later right rest first sign moved second =>
    have past : R behind later :=
      crossing.token (arithmeticOperator?_exact.mp sign).2 (by cases operator <;> rfl) moved
    exact crossing.trans (crossing.trans (operand_crosses crossing levels first) past) (levels.arithmetic second)

theorem expression_crosses (levels : below.Crosses R) : Crosses R (expression s below) :=
  fun read => arithmetic_crosses crossing levels (expression_arithmetic.mp read)

theorem literal_crosses {operator : CompareOperator} : Crosses R (literal s operator) := by
  intro tokens l rest read
  obtain ⟨plain, found, moved, _⟩ := literal_exact.mp read
  exact crossing.found (fun token round => by cases token <;> first | rfl | cases round) found moved

theorem condition_crosses (levels : below.Crosses R) : Crosses R (condition s below) := by
  intro tokens c rest read
  cases condition_exact.mp read with
  | present p rest target ends => exact expression_crosses crossing levels target
  | compare p behind operator later l rest target sign moved compared =>
    have past := crossing.found (fun token round => by cases token <;> first | rfl | cases round) sign moved
    exact crossing.trans (crossing.trans (expression_crosses crossing levels target) past)
      (literal_crosses crossing compared)

theorem conditionGroup_crosses (levels : below.Crosses R) : Crosses R (conditionGroup s below) := by
  intro tokens all rest read
  cases conditionGroup_exact.mp read with
  | bare c rest apart single => exact condition_crosses crossing levels single
  | enclosed behind all closing rest head moved inner closed =>
    exact crossing.parens head moved (levels.conditions inner) closed

theorem moreConditions_crosses {turns : Nat} {before : List Condition} (levels : below.Crosses R) :
    Crosses R (moreConditions s below turns before) := by
  intro tokens all rest read
  induction turns generalizing before tokens with
  | zero =>
    cases read
    exact crossing.refl _
  | succ turns ih =>
    cases moreConditions_exact.mp read with
    | ends => exact crossing.refl _
    | further behind group later all rest head moved next more =>
      exact crossing.trans (crossing.trans (crossing.token head rfl moved)
        (conditionGroup_crosses crossing levels next)) (ih more)

theorem conditions_crosses (levels : below.Crosses R) : Crosses R (conditions s below) := by
  intro tokens all rest read
  obtain ⟨group, behind, first, more⟩ := conditions_exact.mp read
  exact crossing.trans (conditionGroup_crosses crossing levels first)
    (moreConditions_crosses crossing levels more)

theorem sortKeys_crosses {turns : Nat} (levels : below.Crosses R) : Crosses R (sortKeys s below turns) := by
  intro tokens keys rest read
  have past : ∀ {tokens behind direction}, direction? tokens = some direction → s.next tokens = .ok behind →
      R tokens behind := by
    intro tokens behind direction mark moved
    exact crossing.token (direction?_exact.mp mark) (by cases direction <;> rfl) moved
  induction turns generalizing tokens keys rest with
  | zero => exact absurd read unexpected_rejects
  | succ turns ih =>
    cases sortKeys_exact.mp read with
    | last direction behind p rest mark moved key =>
      exact crossing.trans (past mark moved) (path_crosses crossing levels key)
    | next direction behind p later keys rest mark moved key noComma isMark more =>
      exact crossing.trans (crossing.trans (past mark moved) (path_crosses crossing levels key)) (ih more)
    | comma direction behind p comma later keys rest mark moved key isComma again more =>
      exact crossing.trans (crossing.trans (crossing.trans (past mark moved) (path_crosses crossing levels key))
        (crossing.token isComma rfl again)) (ih more)

theorem step?_crosses : Crosses R (step? s) := by
  intro tokens step rest read
  unfold step? at read
  split at read
  · rename_i head
    obtain ⟨_, moved, read⟩ := bind_ok read
    exact crossing.trans (crossing.token head rfl moved) (number?_crosses crossing read)
  · cases read
    exact crossing.refl _

theorem indexOrSlice_crosses : Crosses R (indexOrSlice s) := by
  intro tokens p rest read
  cases indexOrSlice_exact.mp read with
  | index i rest read ends => exact number?_crosses crossing read
  | slice start stop step colon behind later rest first isColon moved second third moves =>
    exact crossing.trans (crossing.trans (crossing.trans (number?_crosses crossing first)
      (crossing.token isColon rfl moved)) (number?_crosses crossing second)) (step?_crosses crossing third)

theorem bracketContent_crosses (levels : below.Crosses R) : Crosses R (bracketContent s below) := by
  intro tokens p rest read
  cases bracketContent_exact.mp read with
  | fullSlice rest head moved => exact crossing.token head rfl moved
  | filter behind filter rest head moved read =>
    exact crossing.trans (crossing.token head rfl moved) (conditions_crosses crossing levels read)
  | sort keys rest head read => exact sortKeys_crosses crossing levels read
  | place p rest head read => exact indexOrSlice_crosses crossing read
  | fields name behind p rest named moved list =>
    exact crossing.trans (crossing.named named moved) (fieldList_crosses crossing list)

theorem bracketBody_crosses (levels : below.Crosses R) : Crosses R (bracketBody s below) := by
  intro tokens p rest read
  obtain ⟨closing, content, closed⟩ := bracketBody_exact.mp read
  exact crossing.trans (bracketContent_crosses crossing levels content) (crossing.expect rfl closed)

theorem level_crosses (depth : Nat) : (level s depth).Crosses R := by
  induction depth with
  | zero => constructor <;> exact nofun
  | succ depth ih =>
    exact ⟨arithmetic_crosses crossing ih, expression_crosses crossing ih, bracketBody_crosses crossing ih,
      conditions_crosses crossing ih⟩

end Productions

-- Reading gets from these tokens to those: they are left of the first, and on the way no fault has come
-- to light.
structure Advances (s : Setting) (tokens rest : List Lexeme) : Prop where
  suffix : rest <:+ tokens
  demanded : rest = tokens ∨ s.demand rest = .ok ()

theorem Advances.trans (first : Advances s tokens behind) (second : Advances s behind rest) :
    Advances s tokens rest := by
  refine ⟨second.suffix.trans first.suffix, ?_⟩
  rcases second.demanded with rfl | demanded
  · exact first.demanded
  · exact .inr demanded

theorem Advances.length_le (advances : Advances s tokens rest) : rest.length ≤ tokens.length :=
  advances.suffix.length_le

theorem next_advances (moved : s.next tokens = .ok rest) : Advances s tokens rest := by
  obtain ⟨_, demanded, same⟩ := bind_ok moved
  cases same
  exact ⟨List.tail_suffix tokens, .inr demanded⟩

theorem next_length (moved : s.next tokens = .ok rest) (head : head? tokens = some token) :
    tokens.length = rest.length + 1 := by
  cases tokens with
  | nil => cases head
  | cons lexeme tokens =>
    cases next_tail moved
    rfl

theorem advances_crossing : Crossing s (Advances s) where
  refl tokens := ⟨List.suffix_refl tokens, .inl rfl⟩
  trans := Advances.trans
  token _ _ moved := next_advances moved
  parens _ moved inner closed := ((next_advances moved).trans inner).trans (next_advances (expect_exact.mp closed).2)

theorem level_advances (depth : Nat) : (level s depth).Crosses (Advances s) :=
  level_crosses advances_crossing depth

theorem demand_nil (demanded : s.demand [] = .ok ()) : ∃ last, s.stop = .endOfText last := by
  cases stopped : s.stop with
  | endOfText last => exact ⟨last, rfl⟩
  | fault error =>
    unfold Setting.demand at demanded
    rw [stopped] at demanded
    cases demanded

-- The path that all tokens together write, with no more levels than these.
def wholeWithin (levels : Nat) (s : Setting) (tokens : List Lexeme) : Except SyntaxError Path := do
  s.demand tokens
  let (p, rest) ← expression s (level s levels) tokens
  if rest = [] then return p else s.unexpected .endOfExpression rest

-- A path is accepted only from tokens that go on to the end of the text.
theorem wholeWithin_ended {levels : Nat} (read : wholeWithin levels s tokens = .ok p) :
    ∃ last, s.stop = .endOfText last := by
  obtain ⟨_, started, read⟩ := bind_ok read
  obtain ⟨⟨_, rest⟩, inner, read⟩ := bind_ok read
  dsimp only at read
  split at read
  · rename_i all
    have advances := expression_crosses advances_crossing (level_advances levels) inner
    rcases advances.demanded with same | demanded
    · rw [← same, all] at started
      exact demand_nil started
    · rw [all] at demanded
      exact demand_nil demanded
  · exact absurd read unexpected_rejects

theorem whole_ended (read : whole s tokens = .ok p) : ∃ last, s.stop = .endOfText last :=
  wholeWithin_ended read

end Grammar

def Path.ofTextWithin (levels : Nat) (profile : Profile) (text : String) : Except SyntaxError Path :=
  let stream := TokenStream.ofText profile text
  Grammar.wholeWithin levels ⟨profile, stream.stop⟩ stream.lexemes

theorem Path.ofText_within {profile : Profile} {text : String} :
    Path.ofText profile text = Path.ofTextWithin maxNesting profile text :=
  rfl

end TreePath
