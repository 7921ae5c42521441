import TreePath.Proofs.Path.Rules
namespace TreePath

def CompareOperator.token : CompareOperator → Token
  | equal => .equal
  | notEqual => .notEqual
  | less => .less
  | greater => .greater
  | lessEqual => .lessEqual
  | greaterEqual => .greaterEqual
  | matching => .matching

def ArithmeticOperator.token : ArithmeticOperator → Token
  | add => .plus
  | multiply => .star
  | divide => .slash

def Direction.token : Direction → Token
  | ascending => .slash
  | descending => .backslash

namespace Grammar

variable {s : Setting} {below : Level} {turns : Nat} {tokens rest : List Lexeme} {p : Path}
  {o : Operand} {c : Condition} {before all : List Condition} {keys : List SortKey}

theorem arithmeticOperator?_exact {operator : ArithmeticOperator} : arithmeticOperator? s tokens = some operator ↔
    s.isExtended = true ∧ head? tokens = some operator.token := by
  unfold arithmeticOperator?
  constructor
  · intro sign
    split at sign
    · rename_i extended
      refine ⟨extended, ?_⟩
      split at sign
      all_goals cases sign
      all_goals assumption
    · cases sign
  · rintro ⟨extended, head⟩
    rw [if_pos extended, head]
    cases operator <;> rfl

-- The ways to read arithmetic.
inductive Arithmetic (s : Setting) (below : Level) (tokens : List Lexeme) : Operand → List Lexeme → Prop where
  | alone (o : Operand) (rest : List Lexeme) (single : operand s below tokens = .ok (o, rest))
      (ends : arithmeticOperator? s rest = none) : Arithmetic s below tokens o rest
  | binary (left : Operand) (behind : List Lexeme) (operator : ArithmeticOperator) (later : List Lexeme)
      (right : Operand) (rest : List Lexeme) (first : operand s below tokens = .ok (left, behind))
      (sign : arithmeticOperator? s behind = some operator) (moved : s.next behind = .ok later)
      (second : below.arithmetic later = .ok (right, rest)) :
      Arithmetic s below tokens (.path (.arithmetic operator left.literalized right.literalized)) rest

theorem arithmetic_exact : arithmetic s below tokens = .ok (o, rest) ↔ Arithmetic s below tokens o rest := by
  constructor
  · intro read
    unfold arithmetic at read
    obtain ⟨⟨left, behind⟩, first, read⟩ := bind_ok read
    dsimp only at read
    split at read
    · rename_i ends
      cases read
      exact .alone _ _ first ends
    · rename_i operator sign
      obtain ⟨later, moved, read⟩ := bind_ok read
      obtain ⟨⟨right, _⟩, second, same⟩ := bind_ok read
      cases same
      exact .binary left behind operator later right _ first sign moved second
  · intro shape
    unfold arithmetic
    cases shape with
    | alone o rest single ends =>
      rw [bind_of_ok single]
      dsimp only
      rw [ends]
      rfl
    | binary left behind operator later right rest first sign moved second =>
      rw [bind_of_ok first]
      dsimp only
      rw [sign]
      dsimp only
      rw [bind_of_ok moved, bind_of_ok second]
      rfl

-- An expression is arithmetic that is no number.
theorem expression_arithmetic :
    expression s below tokens = .ok (p, rest) ↔ arithmetic s below tokens = .ok (.path p, rest) := by
  constructor
  · intro read
    unfold expression at read
    obtain ⟨⟨o, _⟩, inner, same⟩ := bind_ok read
    cases o with
    | literal => cases same
    | path =>
      cases same
      exact inner
  · intro read
    unfold expression
    rw [bind_of_ok read]
    rfl

-- The ways to read the literal of a comparison.
theorem literal_exact {operator : CompareOperator} {l : Literal} :
    literal s operator tokens = .ok (l, rest) ↔ ∃ plain, (head? tokens).bind plainLiteral? = some plain ∧
      s.next tokens = .ok rest ∧ literalFor operator plain (s.position tokens) = .ok l := by
  constructor
  · intro read
    unfold literal at read
    split at read
    · exact absurd read unexpected_rejects
    · rename_i plain found
      obtain ⟨_, moved, read⟩ := bind_ok read
      obtain ⟨_, meant, same⟩ := bind_ok read
      cases same
      exact ⟨plain, found, moved, meant⟩
  · rintro ⟨plain, found, moved, meant⟩
    unfold literal
    rw [found]
    dsimp only
    rw [bind_of_ok moved, bind_of_ok meant]
    rfl

-- The ways to read a condition.
inductive Conditional (s : Setting) (below : Level) (tokens : List Lexeme) :
    Condition → List Lexeme → Prop where
  | present (p : Path) (rest : List Lexeme) (target : expression s below tokens = .ok (p, rest))
      (ends : (head? rest).bind compareOperator? = none) : Conditional s below tokens (.present p) rest
  | compare (p : Path) (behind : List Lexeme) (operator : CompareOperator) (later : List Lexeme)
      (l : Literal) (rest : List Lexeme) (target : expression s below tokens = .ok (p, behind))
      (sign : (head? behind).bind compareOperator? = some operator) (moved : s.next behind = .ok later)
      (compared : literal s operator later = .ok (l, rest)) :
      Conditional s below tokens (.compare p operator l) rest

theorem condition_exact : condition s below tokens = .ok (c, rest) ↔ Conditional s below tokens c rest := by
  constructor
  · intro read
    unfold condition at read
    obtain ⟨⟨p, behind⟩, target, read⟩ := bind_ok read
    dsimp only at read
    split at read
    · rename_i ends
      cases read
      exact .present p _ target ends
    · rename_i operator sign
      obtain ⟨later, moved, read⟩ := bind_ok read
      obtain ⟨⟨l, _⟩, compared, same⟩ := bind_ok read
      cases same
      exact .compare p behind operator later l _ target sign moved compared
  · intro shape
    unfold condition
    cases shape with
    | present p rest target ends =>
      rw [bind_of_ok target]
      dsimp only
      rw [ends]
      rfl
    | compare p behind operator later l rest target sign moved compared =>
      rw [bind_of_ok target]
      dsimp only
      rw [sign]
      dsimp only
      rw [bind_of_ok moved, bind_of_ok compared]
      rfl

-- The ways to read a condition or several in round brackets.
inductive Group (s : Setting) (below : Level) (tokens : List Lexeme) :
    List Condition → List Lexeme → Prop where
  | bare (c : Condition) (rest : List Lexeme) (apart : head? tokens ≠ some .leftParen)
      (single : condition s below tokens = .ok (c, rest)) : Group s below tokens [c] rest
  | enclosed (behind : List Lexeme) (all : List Condition) (closing rest : List Lexeme)
      (head : head? tokens = some .leftParen) (moved : s.next tokens = .ok behind)
      (inner : below.conditions behind = .ok (all, closing))
      (closed : s.expect .rightParen .closingParen closing = .ok rest) : Group s below tokens all rest

theorem conditionGroup_exact :
    conditionGroup s below tokens = .ok (all, rest) ↔ Group s below tokens all rest := by
  constructor
  · intro read
    unfold conditionGroup at read
    split at read
    · rename_i head
      obtain ⟨behind, moved, read⟩ := bind_ok read
      obtain ⟨⟨_, closing⟩, inner, read⟩ := bind_ok read
      obtain ⟨_, closed, same⟩ := bind_ok read
      cases same
      exact .enclosed behind all closing rest head moved inner closed
    · rename_i apart
      obtain ⟨⟨c, _⟩, single, same⟩ := bind_ok read
      cases same
      exact .bare c rest apart single
  · intro shape
    unfold conditionGroup
    cases shape with
    | bare c rest apart single =>
      split
      · rename_i head
        exact absurd head apart
      · rw [bind_of_ok single]
        rfl
    | enclosed behind all closing rest head moved inner closed =>
      rw [head]
      dsimp only
      rw [bind_of_ok moved, bind_of_ok inner, bind_of_ok closed]
      rfl

-- A turn of reading the groups behind the first one, with the turns after it.
inductive More (s : Setting) (below : Level) (turns : Nat) (before : List Condition) (tokens : List Lexeme) :
    List Condition → List Lexeme → Prop where
  | ends (apart : head? tokens ≠ some .ampersand) : More s below turns before tokens before tokens
  | further (behind : List Lexeme) (group : List Condition) (later : List Lexeme) (all : List Condition)
      (rest : List Lexeme) (head : head? tokens = some .ampersand) (moved : s.next tokens = .ok behind)
      (next : conditionGroup s below behind = .ok (group, later))
      (more : moreConditions s below turns (before ++ group) later = .ok (all, rest)) :
      More s below turns before tokens all rest

theorem moreConditions_stays (apart : head? tokens ≠ some .ampersand) :
    moreConditions s below turns all tokens = .ok (all, tokens) := by
  cases turns with
  | zero => rfl
  | succ turns =>
    unfold moreConditions
    split
    · rename_i head
      exact absurd head apart
    · rfl

theorem moreConditions_exact : moreConditions s below (turns + 1) before tokens = .ok (all, rest) ↔
    More s below turns before tokens all rest := by
  constructor
  · intro read
    unfold moreConditions at read
    split at read
    · rename_i head
      obtain ⟨behind, moved, read⟩ := bind_ok read
      obtain ⟨⟨group, later⟩, next, more⟩ := bind_ok read
      exact .further behind group later all rest head moved next more
    · rename_i apart
      cases read
      exact .ends apart
  · intro shape
    cases shape with
    | ends apart => exact moreConditions_stays apart
    | further behind group later all rest head moved next more =>
      unfold moreConditions
      rw [head]
      dsimp only
      rw [bind_of_ok moved, bind_of_ok next]
      exact more

theorem conditions_exact : conditions s below tokens = .ok (all, rest) ↔ ∃ group behind,
    conditionGroup s below tokens = .ok (group, behind) ∧
      moreConditions s below behind.length group behind = .ok (all, rest) := by
  constructor
  · intro read
    unfold conditions at read
    obtain ⟨⟨group, behind⟩, first, more⟩ := bind_ok read
    exact ⟨group, behind, first, more⟩
  · rintro ⟨group, behind, first, more⟩
    unfold conditions
    rw [bind_of_ok first]
    exact more

theorem direction?_exact {direction : Direction} :
    direction? tokens = some direction ↔ head? tokens = some direction.token := by
  unfold direction?
  constructor
  · intro mark
    split at mark
    all_goals cases mark
    all_goals assumption
  · intro head
    rw [head]
    cases direction <;> rfl

-- The ways to read sort keys, of which the first is read in this turn.
inductive Keys (s : Setting) (below : Level) (turns : Nat) (tokens : List Lexeme) :
    List SortKey → List Lexeme → Prop where
  | last (direction : Direction) (behind : List Lexeme) (p : Path) (rest : List Lexeme)
      (mark : direction? tokens = some direction) (moved : s.next tokens = .ok behind)
      (key : path s below behind = .ok (p, rest)) (noComma : head? rest ≠ some .comma)
      (noMark : direction? rest = none) : Keys s below turns tokens [.mk direction p] rest
  | next (direction : Direction) (behind : List Lexeme) (p : Path) (later : List Lexeme)
      (keys : List SortKey) (rest : List Lexeme) (mark : direction? tokens = some direction)
      (moved : s.next tokens = .ok behind) (key : path s below behind = .ok (p, later))
      (noComma : head? later ≠ some .comma) (isMark : (direction? later).isSome = true)
      (more : sortKeys s below turns later = .ok (keys, rest)) :
      Keys s below turns tokens (.mk direction p :: keys) rest
  | comma (direction : Direction) (behind : List Lexeme) (p : Path) (comma later : List Lexeme)
      (keys : List SortKey) (rest : List Lexeme) (mark : direction? tokens = some direction)
      (moved : s.next tokens = .ok behind) (key : path s below behind = .ok (p, comma))
      (isComma : head? comma = some .comma) (again : s.next comma = .ok later)
      (more : sortKeys s below turns later = .ok (keys, rest)) :
      Keys s below turns tokens (.mk direction p :: keys) rest

theorem sortKeys_exact : sortKeys s below (turns + 1) tokens = .ok (keys, rest) ↔
    Keys s below turns tokens keys rest := by
  constructor
  · intro read
    unfold sortKeys at read
    split at read
    · exact absurd read unexpected_rejects
    · rename_i direction mark
      obtain ⟨behind, moved, read⟩ := bind_ok read
      obtain ⟨⟨p, later⟩, key, read⟩ := bind_ok read
      dsimp only at read
      split at read
      · rename_i isComma
        obtain ⟨_, again, read⟩ := bind_ok read
        obtain ⟨⟨_, _⟩, more, same⟩ := bind_ok read
        cases same
        exact .comma direction behind p later _ _ _ mark moved key isComma again more
      split at read
      · rename_i noComma isMark
        obtain ⟨⟨_, _⟩, more, same⟩ := bind_ok read
        cases same
        exact .next direction behind p later _ _ mark moved key noComma isMark more
      · rename_i noComma noMark
        cases read
        exact .last direction behind p _ mark moved key noComma (by simpa using noMark)
  · intro shape
    unfold sortKeys
    cases shape with
    | last direction behind p rest mark moved key noComma noMark =>
      rw [mark]
      dsimp only
      rw [bind_of_ok moved, bind_of_ok key]
      dsimp only
      rw [if_neg noComma, noMark]
      rfl
    | next direction behind p later keys rest mark moved key noComma isMark more =>
      rw [mark]
      dsimp only
      rw [bind_of_ok moved, bind_of_ok key]
      dsimp only
      rw [if_neg noComma, if_pos isMark, bind_of_ok more]
      rfl
    | comma direction behind p comma later keys rest mark moved key isComma again more =>
      rw [mark]
      dsimp only
      rw [bind_of_ok moved, bind_of_ok key]
      dsimp only
      rw [if_pos isComma, bind_of_ok again, bind_of_ok more]
      rfl

end Grammar
end TreePath
