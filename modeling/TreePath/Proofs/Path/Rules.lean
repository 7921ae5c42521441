import TreePath.Path.Grammar
namespace TreePath.Grammar

variable {α β ε : Type} {s : Setting} {below : Level} {operand : Nat → Reader Path} {least turns : Nat}
  {tokens rest : List Lexeme} {token : Token} {expected : Expectation} {p left : Path}

theorem bind_ok {result : Except ε α} {use : α → Except ε β} {b : β}
    (read : result >>= use = .ok b) : ∃ a, result = .ok a ∧ use a = .ok b := by
  cases result with
  | error e => cases read
  | ok a => exact ⟨a, rfl, read⟩

theorem bind_of_ok {result : Except ε α} {use : α → Except ε β} {a : α}
    (read : result = .ok a) : result >>= use = use a := by
  rw [read]
  rfl

theorem unexpected_rejects {a : α} : s.unexpected expected tokens ≠ .ok a := by
  cases tokens <;> exact nofun

theorem expect_exact : s.expect token expected tokens = .ok rest ↔
    head? tokens = some token ∧ s.next tokens = .ok rest := by
  cases tokens with
  | nil => exact ⟨nofun, fun ⟨head, _⟩ => nomatch head⟩
  | cons lexeme tokens =>
    unfold Setting.expect
    dsimp only
    constructor
    · intro moved
      split at moved
      · rename_i same
        exact ⟨congrArg some same, moved⟩
      · exact absurd moved unexpected_rejects
    · intro ⟨head, moved⟩
      rw [if_pos (Option.some.inj head), moved]

theorem next_tail (moved : s.next tokens = .ok rest) : rest = tokens.tail := by
  obtain ⟨_, _, same⟩ := bind_ok moved
  cases same
  rfl

-- The ways to read the names behind the first one: a comma belongs to the list if a name follows it.
inductive MoreNames (s : Setting) : List Lexeme → List String → List Lexeme → Prop where
  | ends (tokens : List Lexeme) (apart : head? tokens = some .comma →
      ∃ behind, s.next tokens = .ok behind ∧ (head? behind).bind Token.fieldName? = none) :
      MoreNames s tokens [] tokens
  | name (tokens behind later : List Lexeme) (name : String) (names : List String) (rest : List Lexeme)
      (comma : head? tokens = some .comma) (moved : s.next tokens = .ok behind)
      (named : (head? behind).bind Token.fieldName? = some name) (again : s.next behind = .ok later)
      (more : MoreNames s later names rest) : MoreNames s tokens (name :: names) rest

theorem moreNames_exact {names : List String} :
    moreNames s tokens = .ok (names, rest) ↔ MoreNames s tokens names rest := by
  constructor
  · intro read
    fun_induction moreNames s tokens generalizing names rest with
    | case1 comma lexeme behind isComma name named ih =>
      obtain ⟨_, demanded, read⟩ := bind_ok read
      obtain ⟨⟨names, _⟩, more, same⟩ := bind_ok read
      cases same
      have again : s.next (lexeme :: behind) = .ok behind := by
        unfold Setting.next
        rw [List.tail_cons, demanded]
        rfl
      exact .name _ (lexeme :: behind) behind name names rest (congrArg some isComma) rfl named again
        (ih more)
    | case2 comma lexeme behind isComma unnamed =>
      cases read
      exact .ends _ fun _ => ⟨lexeme :: behind, rfl, unnamed⟩
    | case4 comma isComma =>
      obtain ⟨_, demanded, same⟩ := bind_ok read
      cases same
      refine .ends _ fun _ => ⟨[], ?_, rfl⟩
      unfold Setting.next
      rw [List.tail_cons, demanded]
      rfl
    | case6 =>
      cases read
      exact .ends _ nofun
    | _ =>
      rename_i other
      cases read
      exact .ends _ fun comma => absurd (Option.some.inj comma) other
  · intro shape
    induction shape with
    | ends tokens apart =>
      cases tokens with
      | nil => rfl
      | cons first tokens =>
        by_cases comma : first.token = .comma
        · obtain ⟨behind, moved, unnamed⟩ := apart (congrArg some comma)
          obtain ⟨_, demanded, same⟩ := bind_ok moved
          cases same
          cases tokens with
          | nil =>
            change s.demand [] = .ok _ at demanded
            rw [moreNames, if_pos comma, demanded]
            rfl
          | cons lexeme tokens =>
            replace unnamed : lexeme.token.fieldName? = none := unnamed
            rw [moreNames, if_pos comma, unnamed]
        · cases tokens with
          | nil => exact if_neg comma
          | cons lexeme tokens => exact if_neg comma
    | name tokens behind later name names rest comma moved named again more ih =>
      cases next_tail moved
      cases next_tail again
      cases tokens with
      | nil => cases comma
      | cons first tokens =>
        cases tokens with
        | nil => cases named
        | cons lexeme tokens =>
          replace named : lexeme.token.fieldName? = some name := named
          obtain ⟨_, demanded, _⟩ := bind_ok again
          change s.demand tokens = .ok _ at demanded
          change moreNames s tokens = _ at ih
          rw [moreNames, if_pos (Option.some.inj comma), named]
          dsimp only
          rw [demanded]
          dsimp only [bind, Except.bind]
          rw [ih]
          rfl

theorem fieldList_read {name : String} {names : List String} (more : moreNames s tokens = .ok (names, rest)) :
    fieldList s name tokens = .ok (.fields (name :: names), rest) := by
  unfold fieldList
  rw [more]
  rfl

-- The ways to read an atom.
inductive Atom (s : Setting) (below : Level) (tokens : List Lexeme) : Path → List Lexeme → Prop where
  | this (rest : List Lexeme) (named : (head? tokens).bind Token.fieldName? = some "@")
      (extended : s.isExtended = true) (moved : s.next tokens = .ok rest) :
      Atom s below tokens .this rest
  | fields (name : String) (behind : List Lexeme) (p : Path) (rest : List Lexeme)
      (named : (head? tokens).bind Token.fieldName? = some name)
      (plain : ¬(name = "@" ∧ s.isExtended = true)) (moved : s.next tokens = .ok behind)
      (list : fieldList s name behind = .ok (p, rest)) : Atom s below tokens p rest
  | wildcard (rest : List Lexeme) (head : head? tokens = some .star) (moved : s.next tokens = .ok rest) :
      Atom s below tokens .wildcard rest
  | root (rest : List Lexeme) (head : head? tokens = some .dollar) (moved : s.next tokens = .ok rest) :
      Atom s below tokens .root rest
  | operator (text : String) (p : Path) (rest : List Lexeme)
      (head : head? tokens = some (.namedOperator text)) (moved : s.next tokens = .ok rest)
      (read : operatorPath s text (s.position tokens) = .ok p) : Atom s below tokens p rest
  | brackets (behind : List Lexeme) (p : Path) (rest : List Lexeme)
      (head : head? tokens = some .leftBracket) (moved : s.next tokens = .ok behind)
      (body : below.bracketBody behind = .ok (p, rest)) : Atom s below tokens p rest
  | parens (behind : List Lexeme) (p : Path) (closing rest : List Lexeme)
      (head : head? tokens = some .leftParen) (moved : s.next tokens = .ok behind)
      (inner : below.expression behind = .ok (p, closing))
      (closed : s.expect .rightParen .closingParen closing = .ok rest) : Atom s below tokens p rest

theorem atom_exact : atom s below tokens = .ok (p, rest) ↔ Atom s below tokens p rest := by
  cases tokens with
  | nil =>
    refine ⟨nofun, fun shape => ?_⟩
    cases shape with
    | this rest named => cases named
    | fields name behind p rest named => cases named
    | wildcard rest head => cases head
    | root rest head => cases head
    | operator text p rest head => cases head
    | brackets behind p rest head => cases head
    | parens behind p closing rest head => cases head
  | cons lexeme tokens =>
    constructor
    · intro read
      unfold atom at read
      dsimp only at read
      split at read
      · rename_i name named
        obtain ⟨behind, moved, read⟩ := bind_ok read
        split at read
        · rename_i self
          cases read
          exact .this rest (self.1 ▸ named) self.2 moved
        · rename_i plain
          exact .fields name behind p rest named plain moved read
      split at read
      · rename_i head
        obtain ⟨_, moved, same⟩ := bind_ok read
        cases same
        exact .wildcard rest (congrArg some head) moved
      · rename_i head
        obtain ⟨_, moved, same⟩ := bind_ok read
        cases same
        exact .root rest (congrArg some head) moved
      · rename_i text head
        obtain ⟨_, moved, read⟩ := bind_ok read
        obtain ⟨_, operator, same⟩ := bind_ok read
        cases same
        exact .operator text p rest (congrArg some head) moved operator
      · rename_i head
        obtain ⟨behind, moved, read⟩ := bind_ok read
        exact .brackets behind p rest (congrArg some head) moved read
      · rename_i head
        obtain ⟨behind, moved, read⟩ := bind_ok read
        obtain ⟨⟨q, closing⟩, inner, read⟩ := bind_ok read
        obtain ⟨_, closed, same⟩ := bind_ok read
        cases same
        exact .parens behind q closing rest (congrArg some head) moved inner closed
      · exact absurd read unexpected_rejects
    · intro shape
      unfold atom
      dsimp only
      cases shape with
      | this rest named extended moved =>
        replace named : lexeme.token.fieldName? = some "@" := named
        rw [named, moved]
        exact if_pos ⟨rfl, extended⟩
      | fields name behind p rest named plain moved list =>
        replace named : lexeme.token.fieldName? = some name := named
        rw [named, moved]
        exact (if_neg plain).trans list
      | wildcard rest head moved =>
        rw [Option.some.inj head, moved]
        rfl
      | root rest head moved =>
        rw [Option.some.inj head, moved]
        rfl
      | operator text p rest head moved read =>
        rw [Option.some.inj head, moved]
        dsimp only [Token.fieldName?, bind, Except.bind]
        change operatorPath s text lexeme.position = .ok p at read
        rw [read]
        rfl
      | brackets behind p rest head moved body =>
        rw [Option.some.inj head, moved]
        exact body
      | parens behind p closing rest head moved inner closed =>
        rw [Option.some.inj head, moved]
        dsimp only [Token.fieldName?, bind, Except.bind]
        rw [inner]
        dsimp only
        rw [closed]
        rfl

-- A turn of reading what stands behind a path, with the turns after it.
inductive Tail (s : Setting) (below : Level) (operand : Nat → Reader Path) (least turns : Nat) (left : Path)
    (tokens : List Lexeme) : Path → List Lexeme → Prop where
  | ends (bracket : head? tokens = some .leftBracket → bracketTightness < least)
      (looser : ∀ operator, (head? tokens).bind Infix.ofToken? = some operator →
        operator.tightness < least) : Tail s below operand least turns left tokens left tokens
  | brackets (behind : List Lexeme) (segment : Path) (later : List Lexeme) (p : Path)
      (rest : List Lexeme) (head : head? tokens = some .leftBracket)
      (tight : ¬bracketTightness < least) (moved : s.next tokens = .ok behind)
      (body : below.bracketBody behind = .ok (segment, later))
      (more : pathTail s below operand least turns (.child left segment) later = .ok (p, rest)) :
      Tail s below operand least turns left tokens p rest
  | operator (operator : Infix) (behind : List Lexeme) (right : Path) (later : List Lexeme) (p : Path)
      (rest : List Lexeme) (sign : (head? tokens).bind Infix.ofToken? = some operator)
      (tight : ¬operator.tightness < least) (moved : s.next tokens = .ok behind)
      (read : operand (operator.tightness + 1) behind = .ok (right, later))
      (more : pathTail s below operand least turns (operator.combine left right) later = .ok (p, rest)) :
      Tail s below operand least turns left tokens p rest

theorem pathTail_brackets (head : head? tokens = some .leftBracket) (tight : ¬bracketTightness < least) :
    pathTail s below operand least (turns + 1) left tokens = (do
      let (segment, later) ← below.bracketBody (← s.next tokens)
      pathTail s below operand least turns (.child left segment) later) := by
  rw [pathTail.eq_def]
  dsimp only
  rw [head]
  exact if_neg tight

theorem pathTail_operator {operator : Infix}
    (sign : (head? tokens).bind Infix.ofToken? = some operator) (tight : ¬operator.tightness < least) :
    pathTail s below operand least (turns + 1) left tokens = (do
      let (right, later) ← operand (operator.tightness + 1) (← s.next tokens)
      pathTail s below operand least turns (operator.combine left right) later) := by
  rw [pathTail.eq_def]
  dsimp only
  split
  · rename_i head
    rw [head] at sign
    cases sign
  · rename_i token _ head
    rw [head] at sign
    replace sign : Infix.ofToken? token = some operator := sign
    rw [sign]
    exact if_neg tight
  · rename_i head
    rw [head] at sign
    cases sign

theorem pathTail_stays (bracket : head? tokens = some .leftBracket → bracketTightness < least)
    (looser : ∀ operator, (head? tokens).bind Infix.ofToken? = some operator →
      operator.tightness < least) :
    pathTail s below operand least turns left tokens = .ok (left, tokens) := by
  cases turns with
  | zero => rfl
  | succ turns =>
    unfold pathTail
    split
    · rename_i head
      exact if_pos (bracket head)
    · rename_i token _ head
      split
      · rfl
      · rename_i operator sign
        exact if_pos (looser operator (by rw [head]; exact sign))
    · rfl

theorem pathTail_exact : pathTail s below operand least (turns + 1) left tokens = .ok (p, rest) ↔
    Tail s below operand least turns left tokens p rest := by
  constructor
  · intro read
    by_cases opens : head? tokens = some .leftBracket ∧ ¬bracketTightness < least
    · obtain ⟨head, tight⟩ := opens
      rw [pathTail_brackets head tight] at read
      obtain ⟨behind, moved, read⟩ := bind_ok read
      obtain ⟨⟨segment, later⟩, body, more⟩ := bind_ok read
      exact .brackets behind segment later p rest head tight moved body more
    by_cases goes : ∃ operator, (head? tokens).bind Infix.ofToken? = some operator ∧
        ¬operator.tightness < least
    · obtain ⟨operator, sign, tight⟩ := goes
      rw [pathTail_operator sign tight] at read
      obtain ⟨behind, moved, read⟩ := bind_ok read
      obtain ⟨⟨right, later⟩, second, more⟩ := bind_ok read
      exact .operator operator behind right later p rest sign tight moved second more
    · have bracket : head? tokens = some .leftBracket → bracketTightness < least :=
        fun head => Decidable.not_not.mp fun tight => opens ⟨head, tight⟩
      have looser : ∀ operator, (head? tokens).bind Infix.ofToken? = some operator →
          operator.tightness < least :=
        fun operator sign => Decidable.not_not.mp fun tight => goes ⟨operator, sign, tight⟩
      rw [pathTail_stays bracket looser] at read
      cases read
      exact .ends bracket looser
  · intro shape
    cases shape with
    | ends bracket looser => exact pathTail_stays bracket looser
    | brackets behind segment later p rest head tight moved body more =>
      rw [pathTail_brackets head tight, moved]
      dsimp only [bind, Except.bind]
      rw [body]
      exact more
    | operator operator behind right later p rest sign tight moved read more =>
      rw [pathTail_operator sign tight, moved]
      dsimp only [bind, Except.bind]
      rw [read]
      exact more

-- The ways to read an operand of arithmetic.
inductive SingleOperand (s : Setting) (below : Level) (tokens : List Lexeme) :
    Operand → List Lexeme → Prop where
  | path (p : Path) (rest : List Lexeme) (read : path s below tokens = .ok (p, rest)) :
      SingleOperand s below tokens (.path p) rest
  | number (n : Int64) (rest : List Lexeme) (extended : s.isExtended = true)
      (head : head? tokens = some (.number n)) (moved : s.next tokens = .ok rest) :
      SingleOperand s below tokens (.literal (.integer n)) rest
  | real (x : Float) (rest : List Lexeme) (head : head? tokens = some (.real x))
      (moved : s.next tokens = .ok rest) : SingleOperand s below tokens (.literal (.float x)) rest

theorem operand_parts {o : Operand} (read : Grammar.operand s below tokens = .ok (o, rest)) :
    SingleOperand s below tokens o rest := by
  unfold Grammar.operand at read
  split at read
  · rename_i n head
    split at read
    · rename_i extended
      obtain ⟨_, moved, same⟩ := bind_ok read
      cases same
      exact .number n rest extended head moved
    · obtain ⟨⟨p, _⟩, inner, same⟩ := bind_ok read
      cases same
      exact .path p rest inner
  · rename_i x head
    obtain ⟨_, moved, same⟩ := bind_ok read
    cases same
    exact .real x rest head moved
  · obtain ⟨⟨p, _⟩, inner, same⟩ := bind_ok read
    cases same
    exact .path p rest inner

theorem operand_number {n : Int64} (extended : s.isExtended = true) (head : head? tokens = some (.number n))
    (moved : s.next tokens = .ok rest) :
    Grammar.operand s below tokens = .ok (.literal (.integer n), rest) := by
  unfold Grammar.operand
  rw [head]
  dsimp only
  rw [if_pos extended, bind_of_ok moved]
  rfl

theorem operand_real {x : Float} (head : head? tokens = some (.real x)) (moved : s.next tokens = .ok rest) :
    Grammar.operand s below tokens = .ok (.literal (.float x), rest) := by
  unfold Grammar.operand
  rw [head]
  dsimp only
  rw [bind_of_ok moved]
  rfl

-- The ways to read a bound of a slice.
inductive Bound (s : Setting) (tokens : List Lexeme) : Option Int64 → List Lexeme → Prop where
  | number (n : Int64) (rest : List Lexeme) (head : head? tokens = some (.number n))
      (moved : s.next tokens = .ok rest) : Bound s tokens (some n) rest
  | none (apart : ∀ n, head? tokens ≠ some (.number n)) : Bound s tokens none tokens

theorem number?_exact {bound : Option Int64} :
    number? s tokens = .ok (bound, rest) ↔ Bound s tokens bound rest := by
  constructor
  · intro read
    unfold number? at read
    split at read
    · rename_i n head
      obtain ⟨_, moved, same⟩ := bind_ok read
      cases same
      exact .number n rest head moved
    · rename_i apart
      cases read
      exact .none apart
  · intro shape
    unfold number?
    cases shape with
    | number n rest head moved =>
      rw [head, moved]
      rfl
    | none apart =>
      split
      · rename_i n head
        exact absurd head (apart n)
      · rfl

-- The step of a slice, behind a second colon.
def step? (s : Setting) : Reader (Option Int64) := fun tokens =>
  if head? tokens = some .colon then do number? s (← s.next tokens) else .ok (none, tokens)

-- The ways to read an index or a slice.
inductive IndexOrSlice (s : Setting) (tokens : List Lexeme) : Path → List Lexeme → Prop where
  | index (i : Int64) (rest : List Lexeme) (read : number? s tokens = .ok (some i, rest))
      (ends : head? rest ≠ some .colon) : IndexOrSlice s tokens (.index i) rest
  | slice (start stop step : Option Int64) (colon behind later rest : List Lexeme)
      (first : number? s tokens = .ok (start, colon)) (isColon : head? colon = some .colon)
      (moved : s.next colon = .ok behind) (second : number? s behind = .ok (stop, later))
      (third : step? s later = .ok (step, rest)) (moves : step ≠ some 0) :
      IndexOrSlice s tokens (.slice start stop step) rest

theorem indexOrSlice_exact :
    indexOrSlice s tokens = .ok (p, rest) ↔ IndexOrSlice s tokens p rest := by
  constructor
  · intro read
    unfold indexOrSlice at read
    obtain ⟨⟨start, colon⟩, first, read⟩ := bind_ok read
    dsimp only at read
    split at read
    · rename_i ends
      cases start with
      | none => exact absurd read unexpected_rejects
      | some i =>
        cases read
        exact .index i _ first ends
    · rename_i isColon
      obtain ⟨behind, moved, read⟩ := bind_ok read
      obtain ⟨⟨stop, later⟩, second, read⟩ := bind_ok read
      have third : ∃ step rest', step? s later = .ok (step, rest') ∧
          (if step = some 0 then Except.error (SyntaxError.invalid .zeroStep (s.position tokens))
            else .ok (.slice start stop step, rest')) = Except.ok (p, rest) := by
        unfold step?
        split at read
        · rename_i again
          obtain ⟨_, moved, read⟩ := bind_ok read
          obtain ⟨⟨step, _⟩, third, read⟩ := bind_ok read
          refine ⟨step, _, ?_, read⟩
          rw [if_pos again, moved]
          exact third
        · rename_i again
          exact ⟨none, later, if_neg again, read⟩
      obtain ⟨step, rest', third, read⟩ := third
      split at read
      · cases read
      · rename_i moves
        cases read
        exact .slice start stop step colon behind later rest first (Decidable.not_not.mp isColon) moved second
          third moves
  · intro shape
    cases shape with
    | index i rest read ends =>
      unfold indexOrSlice
      rw [read]
      exact if_pos ends
    | slice start stop step colon behind later rest first isColon moved second third moves =>
      unfold indexOrSlice
      rw [first]
      dsimp only [bind, Except.bind]
      rw [if_neg (not_not_intro isColon), moved]
      dsimp only
      rw [second]
      dsimp only
      unfold step? at third
      split at third
      · rename_i again
        obtain ⟨_, movedAgain, third⟩ := bind_ok third
        rw [if_pos again, movedAgain]
        dsimp only
        rw [third]
        exact if_neg moves
      · rename_i again
        cases third
        rw [if_neg again]
        rfl

theorem indexOrSlice_starts (read : indexOrSlice s tokens = .ok (p, rest)) :
    (∃ n, head? tokens = some (.number n)) ∨ head? tokens = some .colon := by
  cases indexOrSlice_exact.mp read with
  | index i rest read =>
    cases number?_exact.mp read with
    | number n rest head => exact .inl ⟨_, head⟩
  | slice start stop step colon behind later rest first isColon =>
    cases number?_exact.mp first with
    | number n rest head => exact .inl ⟨_, head⟩
    | none => exact .inr isColon

-- The ways to read what stands in square brackets.
inductive BracketContent (s : Setting) (below : Level) (tokens : List Lexeme) :
    Path → List Lexeme → Prop where
  | fullSlice (rest : List Lexeme) (head : head? tokens = some .star) (moved : s.next tokens = .ok rest) :
      BracketContent s below tokens .fullSlice rest
  | filter (behind : List Lexeme) (filter : List Condition) (rest : List Lexeme)
      (head : head? tokens = some .question) (moved : s.next tokens = .ok behind)
      (read : conditions s below behind = .ok (filter, rest)) :
      BracketContent s below tokens (.filter filter) rest
  | sort (keys : List SortKey) (rest : List Lexeme)
      (head : head? tokens = some .slash ∨ head? tokens = some .backslash)
      (read : sortKeys s below tokens.length tokens = .ok (keys, rest)) :
      BracketContent s below tokens (.sort keys) rest
  | place (p : Path) (rest : List Lexeme)
      (head : (∃ n, head? tokens = some (.number n)) ∨ head? tokens = some .colon)
      (read : indexOrSlice s tokens = .ok (p, rest)) : BracketContent s below tokens p rest
  | fields (name : String) (behind : List Lexeme) (p : Path) (rest : List Lexeme)
      (named : (head? tokens).bind Token.fieldName? = some name) (moved : s.next tokens = .ok behind)
      (list : fieldList s name behind = .ok (p, rest)) : BracketContent s below tokens p rest

theorem bracketContent_exact : bracketContent s below tokens = .ok (p, rest) ↔
    BracketContent s below tokens p rest := by
  constructor
  · intro read
    unfold bracketContent at read
    cases head : head? tokens with
    | none =>
      rw [head] at read
      exact absurd read unexpected_rejects
    | some token =>
      rw [head] at read
      cases token
      case star =>
        obtain ⟨_, moved, same⟩ := bind_ok read
        cases same
        exact .fullSlice rest head moved
      case question =>
        obtain ⟨behind, moved, read⟩ := bind_ok read
        obtain ⟨⟨filter, _⟩, inner, same⟩ := bind_ok read
        cases same
        exact .filter behind filter rest head moved inner
      case slash =>
        obtain ⟨⟨keys, _⟩, inner, same⟩ := bind_ok read
        cases same
        exact .sort keys rest (.inl head) inner
      case backslash =>
        obtain ⟨⟨keys, _⟩, inner, same⟩ := bind_ok read
        cases same
        exact .sort keys rest (.inr head) inner
      case number n => exact .place p rest (.inl ⟨n, head⟩) read
      case colon => exact .place p rest (.inr head) read
      case identifier name =>
        obtain ⟨behind, moved, read⟩ := bind_ok read
        refine .fields name behind p rest ?_ moved read
        rw [head]
        rfl
      case boolean b =>
        obtain ⟨behind, moved, read⟩ := bind_ok read
        refine .fields (Token.booleanText b) behind p rest ?_ moved read
        rw [head]
        rfl
      all_goals exact absurd read unexpected_rejects
  · intro shape
    unfold bracketContent
    cases shape with
    | fullSlice rest head moved =>
      rw [head, moved]
      rfl
    | filter behind filter rest head moved read =>
      rw [head, moved]
      dsimp only [bind, Except.bind]
      rw [read]
      rfl
    | sort keys rest head read =>
      rcases head with head | head
      all_goals
        rw [head, read]
        rfl
    | place p rest head read =>
      rcases head with ⟨n, head⟩ | head
      all_goals
        rw [head]
        exact read
    | fields name behind p rest named moved list =>
      cases head : head? tokens with
      | none =>
        rw [head] at named
        cases named
      | some token =>
        rw [head] at named
        replace named : token.fieldName? = some name := named
        cases token
        case identifier word =>
          cases named
          rw [moved]
          exact list
        case boolean b =>
          cases named
          rw [moved]
          exact list
        all_goals cases named

theorem bracketBody_exact : bracketBody s below tokens = .ok (p, rest) ↔ ∃ closing,
    bracketContent s below tokens = .ok (p, closing) ∧
      s.expect .rightBracket .closingBracket closing = .ok rest := by
  constructor
  · intro read
    obtain ⟨⟨_, closing⟩, content, read⟩ := bind_ok read
    obtain ⟨_, closed, same⟩ := bind_ok read
    cases same
    exact ⟨closing, content, closed⟩
  · rintro ⟨closing, content, closed⟩
    unfold bracketBody
    rw [content]
    dsimp only [bind, Except.bind]
    rw [closed]
    rfl

end TreePath.Grammar
