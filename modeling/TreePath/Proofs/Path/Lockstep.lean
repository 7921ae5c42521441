import Mathlib.Data.List.Forall2
import TreePath.Path.Grammar
namespace TreePath.Grammar

-- Two texts that are read side by side, under one profile: which tokens of the one and of the other make a
-- pair is up to their use, but they are the same token, and either both texts end or both end in a fault.
structure Abreast where
  left : Setting
  right : Setting
  pair : Lexeme → Lexeme → Prop
  profile : right.profile = left.profile
  token : ∀ {lexeme lexeme'}, pair lexeme lexeme' → lexeme'.token = lexeme.token
  stop : (∃ last last', left.stop = .endOfText last ∧ right.stop = .endOfText last') ∨
    ∃ error error', left.stop = .fault error ∧ right.stop = .fault error'

namespace Abreast

variable {α β : Type} {sides : Abreast} {tokens tokens' rest rest' : List Lexeme} {token : Token}
  {expected : Expectation} {same : α → α → Prop} {result result' : Except SyntaxError α}
  {below below' : Level} {operand operand' : Nat → Reader Path} {least turns : Nat} {left : Path}
  {name : String}

-- Tokens that are left of both texts, where both have come to the same place without a fault.
inductive Paired (sides : Abreast) : List Lexeme → List Lexeme → Prop where
  | ended (last last' : Position) (stop : sides.left.stop = .endOfText last)
      (stop' : sides.right.stop = .endOfText last') : Paired sides [] []
  | token (lexeme lexeme' : Lexeme) (rest rest' : List Lexeme) (here : sides.pair lexeme lexeme')
      (later : List.Forall₂ sides.pair rest rest') : Paired sides (lexeme :: rest) (lexeme' :: rest')

-- One error in both texts: about the two tokens of a pair and at their places, or at both ends. Only nesting
-- too deep is an error of a construct that can come to light at the end.
inductive Matching (sides : Abreast) : SyntaxError → SyntaxError → Prop where
  | lexical (error error' : LexError) (stop : sides.left.stop = .fault error)
      (stop' : sides.right.stop = .fault error') : Matching sides (.lexical error) (.lexical error')
  | unexpectedToken (lexeme lexeme' : Lexeme) (expected : Expectation) (here : sides.pair lexeme lexeme') :
      Matching sides (.unexpectedToken lexeme.token expected lexeme.position)
        (.unexpectedToken lexeme'.token expected lexeme'.position)
  | unexpectedEnd (expected : Expectation) (last last' : Position)
      (stop : sides.left.stop = .endOfText last) (stop' : sides.right.stop = .endOfText last') :
      Matching sides (.unexpectedEnd expected last) (.unexpectedEnd expected last')
  | unknownOperator (name : String) (lexeme lexeme' : Lexeme) (here : sides.pair lexeme lexeme')
      (named : lexeme.token = .namedOperator name) :
      Matching sides (.unknownOperator name lexeme.position) (.unknownOperator name lexeme'.position)
  | invalid (reason : Invalid) (lexeme lexeme' : Lexeme) (here : sides.pair lexeme lexeme') :
      Matching sides (.invalid reason lexeme.position) (.invalid reason lexeme'.position)
  | tooDeep (last last' : Position) (stop : sides.left.stop = .endOfText last)
      (stop' : sides.right.stop = .endOfText last') :
      Matching sides (.invalid .tooDeep last) (.invalid .tooDeep last')

-- Both texts are accepted, with results that go together, or both are refused with one error.
inductive Lockstep (sides : Abreast) (same : α → α → Prop) :
    Except SyntaxError α → Except SyntaxError α → Prop where
  | ok (a a' : α) (alike : same a a') : Lockstep sides same (.ok a) (.ok a')
  | error (e e' : SyntaxError) (matching : sides.Matching e e') : Lockstep sides same (.error e) (.error e')

def Both (sides : Abreast) (read read' : α × List Lexeme) : Prop :=
  read'.1 = read.1 ∧ sides.Paired read.2 read'.2

-- From the same place of both texts two readers make the same of them and come to the same place again.
def Follows (sides : Abreast) (reader reader' : Reader α) : Prop :=
  ∀ {tokens tokens'}, sides.Paired tokens tokens' →
    sides.Lockstep sides.Both (reader tokens) (reader' tokens')

structure LevelFollows (sides : Abreast) (below below' : Level) : Prop where
  arithmetic : sides.Follows below.arithmetic below'.arithmetic
  expression : sides.Follows below.expression below'.expression
  bracketBody : sides.Follows below.bracketBody below'.bracketBody
  conditions : sides.Follows below.conditions below'.conditions

theorem isExtended : sides.right.isExtended = sides.left.isExtended :=
  congrArg Profile.isExtended sides.profile

theorem Lockstep.bind {same' : β → β → Prop} {use use' : α → Except SyntaxError β}
    (first : sides.Lockstep same result result')
    (later : ∀ a a', same a a' → sides.Lockstep same' (use a) (use' a')) :
    sides.Lockstep same' (result >>= use) (result' >>= use') := by
  cases first with
  | ok a a' alike => exact later a a' alike
  | error e e' matching => exact .error e e' matching

theorem both {a : α} (paired : sides.Paired tokens tokens') :
    sides.Lockstep sides.Both (.ok (a, tokens)) (.ok (a, tokens')) :=
  .ok _ _ ⟨rfl, paired⟩

theorem Paired.all (paired : sides.Paired tokens tokens') : List.Forall₂ sides.pair tokens tokens' := by
  cases paired with
  | ended => exact .nil
  | token lexeme lexeme' rest rest' here later => exact .cons here later

theorem Paired.length (paired : sides.Paired tokens tokens') : tokens'.length = tokens.length :=
  paired.all.length_eq.symm

theorem Paired.head (paired : sides.Paired tokens tokens') : head? tokens' = head? tokens := by
  cases paired with
  | ended => rfl
  | token lexeme lexeme' rest rest' here later => exact congrArg some (sides.token here)

theorem demand_follows (all : List.Forall₂ sides.pair tokens tokens') :
    sides.Lockstep (fun _ _ => sides.Paired tokens tokens') (sides.left.demand tokens)
      (sides.right.demand tokens') := by
  cases all with
  | cons here later => exact .ok _ _ (.token _ _ _ _ here later)
  | nil =>
    unfold Setting.demand
    rcases sides.stop with ⟨last, last', stop, stop'⟩ | ⟨error, error', stop, stop'⟩
    · rw [stop, stop']
      exact .ok _ _ (.ended last last' stop stop')
    · rw [stop, stop']
      exact .error _ _ (.lexical error error' stop stop')

theorem next_follows (paired : sides.Paired tokens tokens') :
    sides.Lockstep sides.Paired (sides.left.next tokens) (sides.right.next tokens') := by
  have all : List.Forall₂ sides.pair tokens.tail tokens'.tail := by
    cases paired with
    | ended => exact .nil
    | token lexeme lexeme' rest rest' here later => exact later
  exact (demand_follows all).bind fun _ _ behind => .ok _ _ behind

-- Goes on past a token, and then on with what stands behind it.
theorem Paired.next {use use' : List Lexeme → Except SyntaxError α} (paired : sides.Paired tokens tokens')
    (later : ∀ {rest rest'}, sides.Paired rest rest' → sides.Lockstep same (use rest) (use' rest')) :
    sides.Lockstep same (sides.left.next tokens >>= use) (sides.right.next tokens' >>= use') :=
  (next_follows paired).bind fun _ _ behind => later behind

-- What has been read is the same, and both texts are at the same place behind it.
theorem Lockstep.onward {read read' : Except SyntaxError (α × List Lexeme)} {same : β → β → Prop}
    {use use' : α × List Lexeme → Except SyntaxError β} (first : sides.Lockstep sides.Both read read')
    (later : ∀ {a rest rest'}, sides.Paired rest rest' →
      sides.Lockstep same (use (a, rest)) (use' (a, rest'))) :
    sides.Lockstep same (read >>= use) (read' >>= use') := by
  refine first.bind ?_
  rintro ⟨a, rest⟩ ⟨_, rest'⟩ ⟨rfl, behind⟩
  exact later behind

theorem unexpected_follows (paired : sides.Paired tokens tokens') :
    sides.Lockstep same (sides.left.unexpected expected tokens) (sides.right.unexpected expected tokens') := by
  cases paired with
  | ended last last' stop stop' =>
    unfold Setting.unexpected Setting.position
    rw [stop, stop']
    exact .error _ _ (.unexpectedEnd expected last last' stop stop')
  | token lexeme lexeme' rest rest' here later =>
    exact .error _ _ (.unexpectedToken lexeme lexeme' expected here)

theorem tooDeep_follows (paired : sides.Paired tokens tokens') :
    sides.Lockstep same (.error (.invalid .tooDeep (sides.left.position tokens)))
      (.error (.invalid .tooDeep (sides.right.position tokens'))) := by
  cases paired with
  | ended last last' stop stop' =>
    unfold Setting.position
    rw [stop, stop']
    exact .error _ _ (.tooDeep last last' stop stop')
  | token lexeme lexeme' rest rest' here later => exact .error _ _ (.invalid .tooDeep lexeme lexeme' here)

-- A construct that has started with some token is refused at this token.
theorem invalid_follows {reason : Invalid} (paired : sides.Paired tokens tokens') (started : tokens ≠ []) :
    sides.Lockstep same (.error (.invalid reason (sides.left.position tokens)))
      (.error (.invalid reason (sides.right.position tokens'))) := by
  cases paired with
  | ended => exact absurd rfl started
  | token lexeme lexeme' rest rest' here later => exact .error _ _ (.invalid reason lexeme lexeme' here)

theorem expect_follows (paired : sides.Paired tokens tokens') :
    sides.Lockstep sides.Paired (sides.left.expect token expected tokens)
      (sides.right.expect token expected tokens') := by
  cases paired with
  | ended last last' stop stop' => exact unexpected_follows (.ended last last' stop stop')
  | token lexeme lexeme' rest rest' here later =>
    have paired : sides.Paired (lexeme :: rest) (lexeme' :: rest') := .token _ _ _ _ here later
    unfold Setting.expect
    dsimp only
    rw [sides.token here]
    split
    · exact next_follows paired
    · exact unexpected_follows paired

theorem moreNames_follows : sides.Follows (moreNames sides.left) (moreNames sides.right) := by
  intro tokens tokens' paired
  induction tokens using moreNames.induct generalizing tokens' with
  | case1 comma lexeme rest isComma name named ih =>
    cases paired with
    | token _ comma' _ _ here later =>
      cases later with
      | cons here' later =>
        rw [moreNames, moreNames, sides.token here, sides.token here', if_pos isComma, if_pos isComma, named]
        refine (demand_follows later).bind fun _ _ behind => ?_
        exact (ih behind).onward both
  | case2 comma lexeme rest isComma unnamed =>
    cases paired with
    | token _ comma' _ _ here later =>
      have paired := Paired.token comma comma' _ _ here later
      cases later with
      | cons here' later =>
        rw [moreNames, moreNames, sides.token here, sides.token here', if_pos isComma, if_pos isComma, unnamed]
        exact both paired
  | case3 comma lexeme rest other =>
    cases paired with
    | token _ comma' _ _ here later =>
      have paired := Paired.token comma comma' _ _ here later
      cases later with
      | cons here' later =>
        rw [moreNames, moreNames, sides.token here, if_neg other, if_neg other]
        exact both paired
  | case4 comma isComma =>
    cases paired with
    | token _ comma' _ _ here later =>
      have paired := Paired.token comma comma' _ _ here later
      cases later with
      | nil =>
        rw [moreNames, moreNames, sides.token here, if_pos isComma, if_pos isComma]
        exact (demand_follows .nil).bind fun _ _ _ => both paired
  | case5 comma other =>
    cases paired with
    | token _ comma' _ _ here later =>
      have paired := Paired.token comma comma' _ _ here later
      cases later with
      | nil =>
        rw [moreNames, moreNames, sides.token here, if_neg other, if_neg other]
        exact both paired
  | case6 =>
    cases paired with
    | ended last last' stop stop' => exact both (.ended last last' stop stop')

theorem fieldList_follows : sides.Follows (fieldList sides.left name) (fieldList sides.right name) :=
  fun paired => (moreNames_follows paired).onward both

theorem number?_follows : sides.Follows (number? sides.left) (number? sides.right) := by
  intro tokens tokens' paired
  unfold number?
  rw [paired.head]
  split
  · exact paired.next both
  · exact both paired

theorem operatorPath_follows {text : String} {lexeme lexeme' : Lexeme} (here : sides.pair lexeme lexeme')
    (named : lexeme.token = .namedOperator text) :
    sides.Lockstep (fun p p' => p' = p) (operatorPath sides.left text lexeme.position)
      (operatorPath sides.right text lexeme'.position) := by
  unfold operatorPath
  rw [isExtended]
  split
  · exact .ok _ _ rfl
  split
  · exact .ok _ _ rfl
  split
  · exact .error _ _ (.unknownOperator text lexeme lexeme' here named)
  split
  · exact .ok _ _ rfl
  · exact .error _ _ (.invalid _ lexeme lexeme' here)
  · exact .error _ _ (.unknownOperator text lexeme lexeme' here named)

theorem atom_follows (levels : sides.LevelFollows below below') :
    sides.Follows (atom sides.left below) (atom sides.right below') := by
  intro tokens tokens' paired
  cases paired with
  | ended last last' stop stop' => exact unexpected_follows (.ended last last' stop stop')
  | token lexeme lexeme' rest rest' here later =>
    have paired : sides.Paired (lexeme :: rest) (lexeme' :: rest') := .token _ _ _ _ here later
    unfold atom
    dsimp only
    rw [sides.token here]
    split
    · refine paired.next fun behind => ?_
      rw [isExtended]
      split
      · exact both behind
      · exact fieldList_follows behind
    split
    · exact paired.next both
    · exact paired.next both
    · rename_i text named
      refine paired.next fun behind => ?_
      refine (operatorPath_follows here named).bind ?_
      rintro p _ rfl
      exact both behind
    · exact paired.next levels.bracketBody
    · refine paired.next fun behind => (levels.expression behind).onward fun closing => ?_
      exact (expect_follows closing).bind fun _ _ last => both last
    · exact unexpected_follows paired

theorem pathTail_follows (levels : sides.LevelFollows below below')
    (operands : ∀ bound, sides.Follows (operand bound) (operand' bound)) :
    sides.Follows (pathTail sides.left below operand least turns left)
      (pathTail sides.right below' operand' least turns left) := by
  induction turns generalizing left with
  | zero => exact both
  | succ turns ih =>
    intro tokens tokens' paired
    rw [pathTail, pathTail, paired.head]
    split
    · split
      · exact both paired
      · exact paired.next fun behind => (levels.bracketBody behind).onward ih
    · split
      · exact both paired
      · split
        · exact both paired
        · exact paired.next fun behind => (operands _ behind).onward ih
    · exact both paired

theorem pathWithin_follows {tiers : Nat} (levels : sides.LevelFollows below below') :
    sides.Follows (pathWithin sides.left below tiers least) (pathWithin sides.right below' tiers least) := by
  induction tiers generalizing least with
  | zero => exact atom_follows levels
  | succ tiers ih =>
    intro tokens tokens' paired
    refine (atom_follows levels paired).onward fun behind => ?_
    dsimp only
    rw [behind.length]
    exact pathTail_follows levels (fun bound => @ih bound) behind

theorem path_follows (levels : sides.LevelFollows below below') :
    sides.Follows (path sides.left below) (path sides.right below') :=
  pathWithin_follows levels

theorem arithmeticOperator?_follows (paired : sides.Paired tokens tokens') :
    arithmeticOperator? sides.right tokens' = arithmeticOperator? sides.left tokens := by
  unfold arithmeticOperator?
  rw [isExtended, paired.head]

theorem operand_follows (levels : sides.LevelFollows below below') :
    sides.Follows (Grammar.operand sides.left below) (Grammar.operand sides.right below') := by
  intro tokens tokens' paired
  unfold Grammar.operand
  dsimp only
  rw [paired.head, isExtended]
  split
  · split
    · exact paired.next both
    · exact (path_follows levels paired).onward both
  · exact paired.next both
  · exact (path_follows levels paired).onward both

theorem arithmetic_follows (levels : sides.LevelFollows below below') :
    sides.Follows (arithmetic sides.left below) (arithmetic sides.right below') := by
  intro tokens tokens' paired
  refine (operand_follows levels paired).onward fun behind => ?_
  dsimp only
  rw [arithmeticOperator?_follows behind]
  split
  · exact both behind
  · exact behind.next fun later => (levels.arithmetic later).onward both

theorem expression_follows (levels : sides.LevelFollows below below') :
    sides.Follows (expression sides.left below) (expression sides.right below') := by
  intro tokens tokens' paired
  cases paired with
  | ended last last' stop stop' => exact unexpected_follows (.ended last last' stop stop')
  | token lexeme lexeme' rest rest' here later =>
    have paired : sides.Paired (lexeme :: rest) (lexeme' :: rest') := .token _ _ _ _ here later
    refine (arithmetic_follows levels paired).onward fun {o} _ _ behind => ?_
    cases o with
    | path p => exact both behind
    | literal value => exact invalid_follows paired (List.cons_ne_nil _ _)

theorem literalFor_follows {operator : CompareOperator} {plain : Literal} (paired : sides.Paired tokens tokens')
    (started : tokens ≠ []) :
    sides.Lockstep (fun l l' => l' = l) (literalFor operator plain (sides.left.position tokens))
      (literalFor operator plain (sides.right.position tokens')) := by
  unfold literalFor
  split
  · split
    · exact .ok _ _ rfl
    · exact invalid_follows paired started
  · exact invalid_follows paired started
  · exact .ok _ _ rfl

theorem literal_follows {operator : CompareOperator} :
    sides.Follows (literal sides.left operator) (literal sides.right operator) := by
  intro tokens tokens' paired
  unfold literal
  rw [paired.head]
  split
  · exact unexpected_follows paired
  · rename_i plain found
    have started : tokens ≠ [] := by
      rintro rfl
      cases found
    refine paired.next fun behind => (literalFor_follows paired started).bind ?_
    rintro l _ rfl
    exact both behind

theorem condition_follows (levels : sides.LevelFollows below below') :
    sides.Follows (condition sides.left below) (condition sides.right below') := by
  intro tokens tokens' paired
  refine (expression_follows levels paired).onward fun behind => ?_
  dsimp only
  rw [behind.head]
  split
  · exact both behind
  · exact behind.next fun later => (literal_follows later).onward both

theorem conditionGroup_follows (levels : sides.LevelFollows below below') :
    sides.Follows (conditionGroup sides.left below) (conditionGroup sides.right below') := by
  intro tokens tokens' paired
  unfold conditionGroup
  rw [paired.head]
  split
  · refine paired.next fun behind => (levels.conditions behind).onward fun closing => ?_
    exact (expect_follows closing).bind fun _ _ last => both last
  · exact (condition_follows levels paired).onward both

theorem moreConditions_follows {all : List Condition} (levels : sides.LevelFollows below below') :
    sides.Follows (moreConditions sides.left below turns all) (moreConditions sides.right below' turns all) := by
  induction turns generalizing all with
  | zero => exact both
  | succ turns ih =>
    intro tokens tokens' paired
    rw [moreConditions, moreConditions, paired.head]
    split
    · exact paired.next fun behind => (conditionGroup_follows levels behind).onward ih
    · exact both paired

theorem conditions_follows (levels : sides.LevelFollows below below') :
    sides.Follows (conditions sides.left below) (conditions sides.right below') := by
  intro tokens tokens' paired
  refine (conditionGroup_follows levels paired).onward fun behind => ?_
  dsimp only
  rw [behind.length]
  exact moreConditions_follows levels behind

theorem direction?_follows (paired : sides.Paired tokens tokens') : direction? tokens' = direction? tokens := by
  unfold direction?
  rw [paired.head]

theorem sortKeys_follows (levels : sides.LevelFollows below below') :
    sides.Follows (sortKeys sides.left below turns) (sortKeys sides.right below' turns) := by
  induction turns with
  | zero => exact unexpected_follows
  | succ turns ih =>
    intro tokens tokens' paired
    rw [sortKeys, sortKeys, direction?_follows paired]
    split
    · exact unexpected_follows paired
    · refine paired.next fun behind => (path_follows levels behind).onward fun later => ?_
      dsimp only
      rw [later.head, direction?_follows later]
      split
      · exact later.next fun further => (ih further).onward both
      split
      · exact (ih later).onward both
      · exact both later

theorem slice_follows {start stop step : Option Int64} (paired : sides.Paired tokens tokens')
    (started : tokens ≠ []) (behind : sides.Paired rest rest') :
    sides.Lockstep sides.Both
      (if step = some 0 then .error (.invalid .zeroStep (sides.left.position tokens))
        else .ok (Path.slice start stop step, rest))
      (if step = some 0 then .error (.invalid .zeroStep (sides.right.position tokens'))
        else .ok (Path.slice start stop step, rest')) := by
  split
  · exact invalid_follows paired started
  · exact both behind

theorem indexOrSlice_follows : sides.Follows (indexOrSlice sides.left) (indexOrSlice sides.right) := by
  intro tokens tokens' paired
  cases paired with
  | ended last last' stop stop' => exact unexpected_follows (.ended last last' stop stop')
  | token lexeme lexeme' rest rest' here later =>
    have paired : sides.Paired (lexeme :: rest) (lexeme' :: rest') := .token _ _ _ _ here later
    have started : lexeme :: rest ≠ [] := List.cons_ne_nil _ _
    refine (number?_follows paired).onward fun {start} _ _ behind => ?_
    dsimp only
    rw [behind.head]
    split
    · cases start with
      | some i => exact both behind
      | none => exact unexpected_follows behind
    · refine behind.next fun bound => (number?_follows bound).onward fun second => ?_
      dsimp only
      rw [second.head]
      split
      · exact second.next fun bound => (number?_follows bound).onward fun last => slice_follows paired started last
      · exact (both second).onward fun last => slice_follows paired started last

theorem bracketContent_follows (levels : sides.LevelFollows below below') :
    sides.Follows (bracketContent sides.left below) (bracketContent sides.right below') := by
  intro tokens tokens' paired
  unfold bracketContent
  rw [paired.head]
  cases head? tokens with
  | none => exact unexpected_follows paired
  | some token =>
    cases token with
    | star => exact paired.next both
    | question => exact paired.next fun behind => (conditions_follows levels behind).onward both
    | slash | backslash =>
      dsimp only
      rw [paired.length]
      exact (sortKeys_follows levels paired).onward both
    | number | colon => exact indexOrSlice_follows paired
    | _ =>
      dsimp only
      split
      · exact paired.next fieldList_follows
      · exact unexpected_follows paired

theorem bracketBody_follows (levels : sides.LevelFollows below below') :
    sides.Follows (bracketBody sides.left below) (bracketBody sides.right below') := by
  intro tokens tokens' paired
  refine (bracketContent_follows levels paired).onward fun closing => ?_
  exact (expect_follows closing).bind fun _ _ last => both last

theorem level_follows (depth : Nat) : sides.LevelFollows (level sides.left depth) (level sides.right depth) := by
  induction depth with
  | zero => exact ⟨tooDeep_follows, tooDeep_follows, tooDeep_follows, tooDeep_follows⟩
  | succ depth ih =>
    exact ⟨arithmetic_follows ih, expression_follows ih, bracketBody_follows ih, conditions_follows ih⟩

theorem whole_follows (all : List.Forall₂ sides.pair tokens tokens') :
    sides.Lockstep (fun p p' => p' = p) (whole sides.left tokens) (whole sides.right tokens') := by
  refine (demand_follows all).bind fun _ _ paired => ?_
  refine (expression_follows (level_follows maxNesting) paired).onward fun behind => ?_
  dsimp only
  cases behind with
  | ended last last' stop stop' => exact .ok _ _ rfl
  | token lexeme lexeme' rest rest' here later =>
    rw [if_neg (List.cons_ne_nil _ _), if_neg (List.cons_ne_nil _ _)]
    exact unexpected_follows (.token _ _ _ _ here later)

end Abreast
end TreePath.Grammar
