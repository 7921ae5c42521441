import TreePath.Proofs.Path.Advance
import TreePath.Proofs.Path.Climbing
namespace TreePath
namespace Grammar

-- What a derivation is of: a construct at the start of some tokens, read on a level with so many levels
-- below it, what it means, and the tokens behind it.
inductive Judgment where
  | atom (levels : Nat) (tokens : List Lexeme) (p : Path) (rest : List Lexeme)
  | tail (levels least : Nat) (left : Path) (tokens : List Lexeme) (p : Path) (rest : List Lexeme)
  | path (levels least : Nat) (tokens : List Lexeme) (p : Path) (rest : List Lexeme)
  | operand (levels : Nat) (tokens : List Lexeme) (o : Operand) (rest : List Lexeme)
  | arithmetic (levels : Nat) (tokens : List Lexeme) (o : Operand) (rest : List Lexeme)
  | expression (levels : Nat) (tokens : List Lexeme) (p : Path) (rest : List Lexeme)
  | condition (levels : Nat) (tokens : List Lexeme) (c : Condition) (rest : List Lexeme)
  | group (levels : Nat) (tokens : List Lexeme) (all : List Condition) (rest : List Lexeme)
  | more (levels : Nat) (before : List Condition) (tokens : List Lexeme) (all : List Condition)
      (rest : List Lexeme)
  | conditions (levels : Nat) (tokens : List Lexeme) (all : List Condition) (rest : List Lexeme)
  | keys (levels : Nat) (tokens : List Lexeme) (all : List SortKey) (rest : List Lexeme)
  | content (levels : Nat) (tokens : List Lexeme) (p : Path) (rest : List Lexeme)
  | body (levels : Nat) (tokens : List Lexeme) (p : Path) (rest : List Lexeme)

namespace Judgment

def levels : Judgment → Nat
  | atom levels _ _ _ | tail levels _ _ _ _ _ | path levels _ _ _ _ | operand levels _ _ _
  | arithmetic levels _ _ _ | expression levels _ _ _ | condition levels _ _ _ | group levels _ _ _
  | more levels _ _ _ _ | conditions levels _ _ _ | keys levels _ _ _ | content levels _ _ _
  | body levels _ _ _ => levels

def tokens : Judgment → List Lexeme
  | atom _ tokens _ _ | tail _ _ _ tokens _ _ | path _ _ tokens _ _ | operand _ tokens _ _
  | arithmetic _ tokens _ _ | expression _ tokens _ _ | condition _ tokens _ _ | group _ tokens _ _
  | more _ _ tokens _ _ | conditions _ tokens _ _ | keys _ tokens _ _ | content _ tokens _ _
  | body _ tokens _ _ => tokens

def rest : Judgment → List Lexeme
  | atom _ _ _ rest | tail _ _ _ _ _ rest | path _ _ _ _ rest | operand _ _ _ rest
  | arithmetic _ _ _ rest | expression _ _ _ rest | condition _ _ _ rest | group _ _ _ rest
  | more _ _ _ _ rest | conditions _ _ _ rest | keys _ _ _ rest | content _ _ _ rest
  | body _ _ _ rest => rest

end Judgment

-- The grammar without its counters of turns and tiers. What is read in one step, on no further level, is
-- left to the reader that reads it.
inductive Derives (s : Setting) : Judgment → Prop where
  | word (levels : Nat) (tokens : List Lexeme) (p : Path) (rest : List Lexeme)
      (read : atom s (level s 0) tokens = .ok (p, rest)) : Derives s (.atom levels tokens p rest)
  | brackets (levels : Nat) (tokens behind : List Lexeme) (p : Path) (rest : List Lexeme)
      (head : head? tokens = some .leftBracket) (moved : s.next tokens = .ok behind)
      (body : Derives s (.body levels behind p rest)) : Derives s (.atom (levels + 1) tokens p rest)
  | parens (levels : Nat) (tokens behind : List Lexeme) (p : Path) (closing rest : List Lexeme)
      (head : head? tokens = some .leftParen) (moved : s.next tokens = .ok behind)
      (inner : Derives s (.expression levels behind p closing))
      (closed : s.expect .rightParen .closingParen closing = .ok rest) :
      Derives s (.atom (levels + 1) tokens p rest)
  | ends (levels least : Nat) (p : Path) (tokens : List Lexeme)
      (bracket : head? tokens = some .leftBracket → bracketTightness < least)
      (looser : ∀ operator, (head? tokens).bind Infix.ofToken? = some operator →
        operator.tightness < least) : Derives s (.tail levels least p tokens p tokens)
  | segment (levels least : Nat) (left : Path) (tokens behind : List Lexeme) (segment : Path)
      (later : List Lexeme) (p : Path) (rest : List Lexeme) (head : head? tokens = some .leftBracket)
      (tight : ¬bracketTightness < least) (moved : s.next tokens = .ok behind)
      (body : Derives s (.body levels behind segment later))
      (more : Derives s (.tail (levels + 1) least (.child left segment) later p rest)) :
      Derives s (.tail (levels + 1) least left tokens p rest)
  | binary (levels least : Nat) (left : Path) (tokens : List Lexeme) (operator : Infix)
      (behind : List Lexeme) (right : Path) (later : List Lexeme) (p : Path) (rest : List Lexeme)
      (sign : (head? tokens).bind Infix.ofToken? = some operator) (tight : ¬operator.tightness < least)
      (moved : s.next tokens = .ok behind)
      (operand : Derives s (.path levels (operator.tightness + 1) behind right later))
      (more : Derives s (.tail levels least (operator.combine left right) later p rest)) :
      Derives s (.tail levels least left tokens p rest)
  | path (levels least : Nat) (tokens : List Lexeme) (left : Path) (behind : List Lexeme) (p : Path)
      (rest : List Lexeme) (first : Derives s (.atom levels tokens left behind))
      (more : Derives s (.tail levels least left behind p rest)) : Derives s (.path levels least tokens p rest)
  | number (levels : Nat) (tokens : List Lexeme) (n : Int64) (rest : List Lexeme)
      (extended : s.isExtended = true) (head : head? tokens = some (.number n))
      (moved : s.next tokens = .ok rest) : Derives s (.operand levels tokens (.literal (.integer n)) rest)
  | real (levels : Nat) (tokens : List Lexeme) (x : Float) (rest : List Lexeme)
      (head : head? tokens = some (.real x)) (moved : s.next tokens = .ok rest) :
      Derives s (.operand levels tokens (.literal (.float x)) rest)
  | operand (levels : Nat) (tokens : List Lexeme) (p : Path) (rest : List Lexeme)
      (path : Derives s (.path levels 0 tokens p rest)) : Derives s (.operand levels tokens (.path p) rest)
  | alone (levels : Nat) (tokens : List Lexeme) (o : Operand) (rest : List Lexeme)
      (operand : Derives s (.operand levels tokens o rest)) (sign : arithmeticOperator? s rest = none) :
      Derives s (.arithmetic levels tokens o rest)
  | arithmetic (levels : Nat) (tokens : List Lexeme) (left : Operand) (behind : List Lexeme)
      (operator : ArithmeticOperator) (later : List Lexeme) (right : Operand) (rest : List Lexeme)
      (operand : Derives s (.operand (levels + 1) tokens left behind))
      (sign : arithmeticOperator? s behind = some operator) (moved : s.next behind = .ok later)
      (inner : Derives s (.arithmetic levels later right rest)) :
      Derives s (.arithmetic (levels + 1) tokens
        (.path (.arithmetic operator left.literalized right.literalized)) rest)
  | expression (levels : Nat) (tokens : List Lexeme) (p : Path) (rest : List Lexeme)
      (inner : Derives s (.arithmetic levels tokens (.path p) rest)) :
      Derives s (.expression levels tokens p rest)
  | present (levels : Nat) (tokens : List Lexeme) (p : Path) (rest : List Lexeme)
      (target : Derives s (.expression levels tokens p rest))
      (sign : (head? rest).bind compareOperator? = none) : Derives s (.condition levels tokens (.present p) rest)
  | compare (levels : Nat) (tokens : List Lexeme) (p : Path) (behind : List Lexeme)
      (operator : CompareOperator) (later : List Lexeme) (l : Literal) (rest : List Lexeme)
      (target : Derives s (.expression levels tokens p behind))
      (sign : (head? behind).bind compareOperator? = some operator) (moved : s.next behind = .ok later)
      (compared : literal s operator later = .ok (l, rest)) :
      Derives s (.condition levels tokens (.compare p operator l) rest)
  | bare (levels : Nat) (tokens : List Lexeme) (c : Condition) (rest : List Lexeme)
      (apart : head? tokens ≠ some .leftParen) (single : Derives s (.condition levels tokens c rest)) :
      Derives s (.group levels tokens [c] rest)
  | enclosed (levels : Nat) (tokens behind : List Lexeme) (all : List Condition)
      (closing rest : List Lexeme) (head : head? tokens = some .leftParen) (moved : s.next tokens = .ok behind)
      (inner : Derives s (.conditions levels behind all closing))
      (closed : s.expect .rightParen .closingParen closing = .ok rest) :
      Derives s (.group (levels + 1) tokens all rest)
  | noMore (levels : Nat) (all : List Condition) (tokens : List Lexeme)
      (apart : head? tokens ≠ some .ampersand) : Derives s (.more levels all tokens all tokens)
  | further (levels : Nat) (before : List Condition) (tokens behind : List Lexeme)
      (group : List Condition) (later : List Lexeme) (all : List Condition) (rest : List Lexeme)
      (head : head? tokens = some .ampersand) (moved : s.next tokens = .ok behind)
      (next : Derives s (.group levels behind group later))
      (more : Derives s (.more levels (before ++ group) later all rest)) :
      Derives s (.more levels before tokens all rest)
  | conditions (levels : Nat) (tokens : List Lexeme) (group : List Condition) (behind : List Lexeme)
      (all : List Condition) (rest : List Lexeme) (first : Derives s (.group levels tokens group behind))
      (more : Derives s (.more levels group behind all rest)) : Derives s (.conditions levels tokens all rest)
  | lastKey (levels : Nat) (tokens : List Lexeme) (direction : Direction) (behind : List Lexeme)
      (p : Path) (rest : List Lexeme) (mark : direction? tokens = some direction)
      (moved : s.next tokens = .ok behind) (path : Derives s (.path levels 0 behind p rest))
      (noComma : head? rest ≠ some .comma) (noMark : direction? rest = none) :
      Derives s (.keys levels tokens [.mk direction p] rest)
  | key (levels : Nat) (tokens : List Lexeme) (direction : Direction) (behind : List Lexeme) (p : Path)
      (later : List Lexeme) (keys : List SortKey) (rest : List Lexeme)
      (mark : direction? tokens = some direction) (moved : s.next tokens = .ok behind)
      (path : Derives s (.path levels 0 behind p later)) (noComma : head? later ≠ some .comma)
      (isMark : (direction? later).isSome = true) (more : Derives s (.keys levels later keys rest)) :
      Derives s (.keys levels tokens (.mk direction p :: keys) rest)
  | commaKey (levels : Nat) (tokens : List Lexeme) (direction : Direction) (behind : List Lexeme)
      (p : Path) (comma later : List Lexeme) (keys : List SortKey) (rest : List Lexeme)
      (mark : direction? tokens = some direction) (moved : s.next tokens = .ok behind)
      (path : Derives s (.path levels 0 behind p comma)) (isComma : head? comma = some .comma)
      (again : s.next comma = .ok later) (more : Derives s (.keys levels later keys rest)) :
      Derives s (.keys levels tokens (.mk direction p :: keys) rest)
  | fullSlice (levels : Nat) (tokens rest : List Lexeme) (head : head? tokens = some .star)
      (moved : s.next tokens = .ok rest) : Derives s (.content levels tokens .fullSlice rest)
  | place (levels : Nat) (tokens : List Lexeme) (p : Path) (rest : List Lexeme)
      (read : indexOrSlice s tokens = .ok (p, rest)) : Derives s (.content levels tokens p rest)
  | fields (levels : Nat) (tokens : List Lexeme) (name : String) (behind : List Lexeme) (p : Path)
      (rest : List Lexeme) (named : (head? tokens).bind Token.fieldName? = some name)
      (moved : s.next tokens = .ok behind) (list : fieldList s name behind = .ok (p, rest)) :
      Derives s (.content levels tokens p rest)
  | filter (levels : Nat) (tokens behind : List Lexeme) (all : List Condition) (rest : List Lexeme)
      (head : head? tokens = some .question) (moved : s.next tokens = .ok behind)
      (read : Derives s (.conditions levels behind all rest)) :
      Derives s (.content levels tokens (.filter all) rest)
  | sort (levels : Nat) (tokens : List Lexeme) (keys : List SortKey) (rest : List Lexeme)
      (read : Derives s (.keys levels tokens keys rest)) : Derives s (.content levels tokens (.sort keys) rest)
  | body (levels : Nat) (tokens : List Lexeme) (p : Path) (closing rest : List Lexeme)
      (content : Derives s (.content levels tokens p closing))
      (closed : s.expect .rightBracket .closingBracket closing = .ok rest) :
      Derives s (.body levels tokens p rest)

-- What the readers make of a judgment, with as many turns as there are tokens at least, and enough tiers.
def Judgment.Read (s : Setting) : Judgment → Prop
  | atom levels tokens p rest => Grammar.atom s (level s levels) tokens = .ok (p, rest)
  | tail levels least left tokens p rest => ∀ tiers turns, 7 ≤ tiers + max least 3 → tokens.length ≤ turns →
    pathTail s (level s levels) (pathWithin s (level s levels) (tiers - 1)) least turns left tokens =
      .ok (p, rest)
  | path levels least tokens p rest => ∀ tiers, 7 ≤ tiers + max least 3 →
    pathWithin s (level s levels) tiers least tokens = .ok (p, rest)
  | operand levels tokens o rest => Grammar.operand s (level s levels) tokens = .ok (o, rest)
  | arithmetic levels tokens o rest => Grammar.arithmetic s (level s levels) tokens = .ok (o, rest)
  | expression levels tokens p rest => Grammar.expression s (level s levels) tokens = .ok (p, rest)
  | condition levels tokens c rest => Grammar.condition s (level s levels) tokens = .ok (c, rest)
  | group levels tokens all rest => conditionGroup s (level s levels) tokens = .ok (all, rest)
  | more levels before tokens all rest => ∀ turns, tokens.length ≤ turns →
    moreConditions s (level s levels) turns before tokens = .ok (all, rest)
  | conditions levels tokens all rest => Grammar.conditions s (level s levels) tokens = .ok (all, rest)
  | keys levels tokens all rest => ∀ turns, tokens.length ≤ turns →
    sortKeys s (level s levels) turns tokens = .ok (all, rest)
  | content levels tokens p rest => bracketContent s (level s levels) tokens = .ok (p, rest)
  | body levels tokens p rest => bracketBody s (level s levels) tokens = .ok (p, rest)

variable {s : Setting} {judgment : Judgment} {below : Level} {operand : Nat → Reader Path}
  {levels least turns tiers : Nat}
  {left p : Path} {o : Operand} {tokens rest : List Lexeme}

-- What the constructs on the level below read is derived there.
structure Level.Derived (s : Setting) (levels : Nat) : Prop where
  arithmetic : ∀ {tokens o rest}, (level s levels).arithmetic tokens = .ok (o, rest) →
    ∃ below, levels = below + 1 ∧ Derives s (.arithmetic below tokens o rest)
  expression : ∀ {tokens p rest}, (level s levels).expression tokens = .ok (p, rest) →
    ∃ below, levels = below + 1 ∧ Derives s (.expression below tokens p rest)
  bracketBody : ∀ {tokens p rest}, (level s levels).bracketBody tokens = .ok (p, rest) →
    ∃ below, levels = below + 1 ∧ Derives s (.body below tokens p rest)
  conditions : ∀ {tokens all rest}, (level s levels).conditions tokens = .ok (all, rest) →
    ∃ below, levels = below + 1 ∧ Derives s (.conditions below tokens all rest)

theorem derives_atom (derived : Level.Derived s levels) (read : atom s (level s levels) tokens = .ok (p, rest)) :
    Derives s (.atom levels tokens p rest) := by
  cases atom_exact.mp read with
  | this rest named extended moved => exact .word _ _ _ _ (atom_exact.mpr (.this rest named extended moved))
  | fields name behind p rest named plain moved list =>
    exact .word _ _ _ _ (atom_exact.mpr (.fields name behind p rest named plain moved list))
  | wildcard rest head moved => exact .word _ _ _ _ (atom_exact.mpr (.wildcard rest head moved))
  | root rest head moved => exact .word _ _ _ _ (atom_exact.mpr (.root rest head moved))
  | operator text p rest head moved read =>
    exact .word _ _ _ _ (atom_exact.mpr (.operator text p rest head moved read))
  | brackets behind p rest head moved body =>
    obtain ⟨below, rfl, within⟩ := derived.bracketBody body
    exact .brackets _ _ _ _ _ head moved within
  | parens behind p closing rest head moved inner closed =>
    obtain ⟨below, rfl, within⟩ := derived.expression inner
    exact .parens _ _ _ _ _ _ head moved within closed

-- A turn goes past a token at least, so the turns last as long as the tokens do.
theorem derives_tail (derived : Level.Derived s levels)
    (advancing : ∀ bound, Crosses (Advances s) (operand bound))
    (operands : ∀ {operator : Infix} {tokens p rest}, least ≤ operator.tightness →
      operand (operator.tightness + 1) tokens = .ok (p, rest) →
      Derives s (.path levels (operator.tightness + 1) tokens p rest))
    (enough : tokens.length ≤ turns)
    (read : pathTail s (level s levels) operand least turns left tokens = .ok (p, rest)) :
    Derives s (.tail levels least left tokens p rest) := by
  induction turns generalizing left tokens with
  | zero =>
    cases read
    cases List.length_eq_zero_iff.mp (Nat.le_zero.mp enough)
    exact .ends _ _ _ _ nofun nofun
  | succ turns ih =>
    cases pathTail_exact.mp read with
    | ends bracket looser => exact .ends _ _ _ _ bracket looser
    | brackets behind segment later p rest head tight moved body more =>
      have shorter := ((level_advances levels).bracketBody body).length_le
      have longer := next_length moved head
      obtain ⟨below, rfl, within⟩ := derived.bracketBody body
      exact .segment _ _ _ _ _ _ _ _ _ head tight moved within (ih (by omega) more)
    | operator operator behind right later p rest sign tight moved second more =>
      have shorter := (advancing _ second).length_le
      have longer := next_length moved (sign_head sign)
      exact .binary _ _ _ _ _ _ _ _ _ _ sign tight moved (operands (Nat.not_lt.mp tight) second)
        (ih (by omega) more)

theorem derives_path (derived : Level.Derived s levels) (enough : 7 ≤ tiers + max least 3)
    (read : pathWithin s (level s levels) tiers least tokens = .ok (p, rest)) :
    Derives s (.path levels least tokens p rest) := by
  induction tiers generalizing least tokens p rest with
  | zero =>
    have bound : 7 ≤ least := by omega
    refine .path _ _ _ _ _ _ _ (derives_atom derived read) (.ends _ _ _ _ (fun _ => ?_) fun operator _ => ?_)
    · exact Nat.lt_of_lt_of_le (by decide) bound
    · exact Nat.lt_of_le_of_lt operator.tightness_bounds.2 (Nat.lt_of_lt_of_le (by decide) bound)
  | succ tiers ih =>
    unfold pathWithin at read
    obtain ⟨⟨left, behind⟩, first, more⟩ := bind_ok read
    refine .path _ _ _ _ _ _ _ (derives_atom derived first) (derives_tail derived
      (fun _ => pathWithin_crosses advances_crossing (level_advances levels)) (fun {operator} _ _ _ tighter => ih ?_)
      (Nat.le_refl _) more)
    have bounds := operator.tightness_bounds
    omega

theorem derives_operand (derived : Level.Derived s levels)
    (read : Grammar.operand s (level s levels) tokens = .ok (o, rest)) :
    Derives s (.operand levels tokens o rest) := by
  cases operand_parts read with
  | path p rest inner => exact .operand _ _ _ _ (derives_path derived (by decide) inner)
  | number n rest extended head moved => exact .number _ _ _ _ extended head moved
  | real x rest head moved => exact .real _ _ _ _ head moved

theorem derives_arithmetic (derived : Level.Derived s levels)
    (read : arithmetic s (level s levels) tokens = .ok (o, rest)) :
    Derives s (.arithmetic levels tokens o rest) := by
  cases arithmetic_exact.mp read with
  | alone o rest single ends => exact .alone _ _ _ _ (derives_operand derived single) ends
  | binary left behind operator later right rest first sign moved second =>
    obtain ⟨below, rfl, within⟩ := derived.arithmetic second
    exact .arithmetic _ _ _ _ _ _ _ _ (derives_operand derived first) sign moved within

theorem derives_expression (derived : Level.Derived s levels)
    (read : expression s (level s levels) tokens = .ok (p, rest)) :
    Derives s (.expression levels tokens p rest) :=
  .expression _ _ _ _ (derives_arithmetic derived (expression_arithmetic.mp read))

theorem derives_condition {c : Condition} (derived : Level.Derived s levels)
    (read : condition s (level s levels) tokens = .ok (c, rest)) :
    Derives s (.condition levels tokens c rest) := by
  cases condition_exact.mp read with
  | present p rest target ends => exact .present _ _ _ _ (derives_expression derived target) ends
  | compare p behind operator later l rest target sign moved compared =>
    exact .compare _ _ _ _ _ _ _ _ (derives_expression derived target) sign moved compared

theorem derives_group {all : List Condition} (derived : Level.Derived s levels)
    (read : conditionGroup s (level s levels) tokens = .ok (all, rest)) :
    Derives s (.group levels tokens all rest) := by
  cases conditionGroup_exact.mp read with
  | bare c rest apart single => exact .bare _ _ _ _ apart (derives_condition derived single)
  | enclosed behind all closing rest head moved inner closed =>
    obtain ⟨below, rfl, within⟩ := derived.conditions inner
    exact .enclosed _ _ _ _ _ _ head moved within closed

theorem derives_more {before all : List Condition} (derived : Level.Derived s levels)
    (enough : tokens.length ≤ turns)
    (read : moreConditions s (level s levels) turns before tokens = .ok (all, rest)) :
    Derives s (.more levels before tokens all rest) := by
  induction turns generalizing before tokens with
  | zero =>
    cases read
    cases List.length_eq_zero_iff.mp (Nat.le_zero.mp enough)
    exact .noMore _ _ _ nofun
  | succ turns ih =>
    cases moreConditions_exact.mp read with
    | ends apart => exact .noMore _ _ _ apart
    | further behind group later all rest head moved next more =>
      have shorter := (conditionGroup_crosses advances_crossing (level_advances levels) next).length_le
      have longer := next_length moved head
      exact .further _ _ _ _ _ _ _ _ head moved (derives_group derived next) (ih (by omega) more)

theorem derives_conditions {all : List Condition} (derived : Level.Derived s levels)
    (read : conditions s (level s levels) tokens = .ok (all, rest)) :
    Derives s (.conditions levels tokens all rest) := by
  obtain ⟨group, behind, first, more⟩ := conditions_exact.mp read
  exact .conditions _ _ _ _ _ _ (derives_group derived first) (derives_more derived (Nat.le_refl _) more)

theorem derives_keys {all : List SortKey} (derived : Level.Derived s levels)
    (read : sortKeys s (level s levels) turns tokens = .ok (all, rest)) :
    Derives s (.keys levels tokens all rest) := by
  induction turns generalizing tokens all rest with
  | zero => exact absurd read unexpected_rejects
  | succ turns ih =>
    have path : ∀ {tokens p rest}, Grammar.path s (level s levels) tokens = .ok (p, rest) →
        Derives s (.path levels 0 tokens p rest) := derives_path derived (by decide)
    cases sortKeys_exact.mp read with
    | last direction behind p rest mark moved key noComma noMark =>
      exact .lastKey _ _ _ _ _ _ mark moved (path key) noComma noMark
    | next direction behind p later keys rest mark moved key noComma isMark more =>
      exact .key _ _ _ _ _ _ _ _ mark moved (path key) noComma isMark (ih more)
    | comma direction behind p comma later keys rest mark moved key isComma again more =>
      exact .commaKey _ _ _ _ _ _ _ _ _ mark moved (path key) isComma again (ih more)

theorem derives_content (derived : Level.Derived s levels)
    (read : bracketContent s (level s levels) tokens = .ok (p, rest)) :
    Derives s (.content levels tokens p rest) := by
  cases bracketContent_exact.mp read with
  | fullSlice rest head moved => exact .fullSlice _ _ _ head moved
  | filter behind filter rest head moved read =>
    exact .filter _ _ _ _ _ head moved (derives_conditions derived read)
  | sort keys rest head read => exact .sort _ _ _ _ (derives_keys derived read)
  | place p rest head read => exact .place _ _ _ _ read
  | fields name behind p rest named moved list => exact .fields _ _ _ _ _ _ named moved list

theorem derives_body (derived : Level.Derived s levels)
    (read : bracketBody s (level s levels) tokens = .ok (p, rest)) :
    Derives s (.body levels tokens p rest) := by
  obtain ⟨closing, content, closed⟩ := bracketBody_exact.mp read
  exact .body _ _ _ _ _ (derives_content derived content) closed

theorem level_derived (levels : Nat) : Level.Derived s levels := by
  induction levels with
  | zero => constructor <;> exact nofun
  | succ levels ih =>
    exact ⟨fun read => ⟨levels, rfl, derives_arithmetic ih read⟩,
      fun read => ⟨levels, rfl, derives_expression ih read⟩, fun read => ⟨levels, rfl, derives_body ih read⟩,
      fun read => ⟨levels, rfl, derives_conditions ih read⟩⟩

-- Where nothing binds so tightly there is no tail.
theorem pathWithin_read {behind : List Lexeme} (first : atom s below tokens = .ok (left, behind))
    (enough : 7 ≤ tiers + max least 3)
    (more : pathTail s below (pathWithin s below (tiers - 1)) least behind.length left behind = .ok (p, rest)) :
    pathWithin s below tiers least tokens = .ok (p, rest) := by
  cases tiers with
  | zero =>
    have bound : 7 ≤ least := by omega
    have none : pathTail s below (pathWithin s below (0 - 1)) least behind.length left behind =
        .ok (left, behind) :=
      pathTail_stays (fun _ => Nat.lt_of_lt_of_le (by decide) bound) fun operator _ =>
        Nat.lt_of_le_of_lt operator.tightness_bounds.2 (Nat.lt_of_lt_of_le (by decide) bound)
    cases none.symm.trans more
    exact first
  | succ tiers =>
    unfold pathWithin
    rw [bind_of_ok first]
    exact more

theorem direction_length {direction : Direction} (mark : direction? tokens = some direction)
    (moved : s.next tokens = .ok rest) : tokens.length = rest.length + 1 :=
  next_length moved (direction?_exact.mp mark)

theorem keys_start {keys : List SortKey} (derives : Derives s (.keys levels tokens keys rest)) :
    head? tokens = some .slash ∨ head? tokens = some .backslash := by
  have marked : ∃ direction, direction? tokens = some direction := by
    cases derives with
    | lastKey | key | commaKey => exact ⟨_, ‹_›⟩
  obtain ⟨direction, mark⟩ := marked
  have head := direction?_exact.mp mark
  cases direction
  · exact .inl head
  · exact .inr head

theorem Derives.read (derives : Derives s judgment) : judgment.Read s := by
  induction derives with
  | word levels tokens p rest read =>
    refine atom_exact.mpr ?_
    cases atom_exact.mp read with
    | this rest named extended moved => exact .this rest named extended moved
    | fields name behind p rest named plain moved list => exact .fields name behind p rest named plain moved list
    | wildcard rest head moved => exact .wildcard rest head moved
    | root rest head moved => exact .root rest head moved
    | operator text p rest head moved read => exact .operator text p rest head moved read
    | brackets behind p rest head moved body => cases body
    | parens behind p closing rest head moved inner => cases inner
  | brackets levels tokens behind p rest head moved body ih =>
    exact atom_exact.mpr (.brackets behind p rest head moved ih)
  | parens levels tokens behind p closing rest head moved inner closed ih =>
    exact atom_exact.mpr (.parens behind p closing rest head moved ih closed)
  | ends levels least p tokens bracket looser => exact fun _ _ _ _ => pathTail_stays bracket looser
  | segment levels least left tokens behind segment later p rest head tight moved body more ihBody ihMore =>
    intro tiers turns enough long
    have shorter := (bracketBody_crosses advances_crossing (level_advances levels) ihBody).length_le
    have longer := next_length moved head
    cases turns with
    | zero => omega
    | succ turns =>
      exact pathTail_exact.mpr (.brackets behind segment later p rest head tight moved ihBody
        (ihMore tiers turns enough (by omega)))
  | binary levels least left tokens operator behind right later p rest sign tight moved operand more ihOperand
      ihMore =>
    intro tiers turns enough long
    have bounds := operator.tightness_bounds
    have second := ihOperand (tiers - 1) (by omega)
    have shorter := (pathWithin_crosses advances_crossing (level_advances levels) second).length_le
    have longer := next_length moved (sign_head sign)
    cases turns with
    | zero => omega
    | succ turns =>
      exact pathTail_exact.mpr (.operator operator behind right later p rest sign tight moved second
        (ihMore tiers turns enough (by omega)))
  | path levels least tokens left behind p rest first more ihFirst ihMore =>
    exact fun tiers enough => pathWithin_read ihFirst enough (ihMore tiers behind.length enough (Nat.le_refl _))
  | number levels tokens n rest extended head moved => exact operand_number extended head moved
  | real levels tokens x rest head moved => exact operand_real head moved
  | operand levels tokens p rest path ih => exact operand_read (ih Grammar.tiers (by decide))
  | alone levels tokens o rest operand sign ih => exact arithmetic_exact.mpr (.alone o rest ih sign)
  | arithmetic levels tokens left behind operator later right rest operand sign moved inner ihOperand ihInner =>
    exact arithmetic_exact.mpr (.binary left behind operator later right rest ihOperand sign moved ihInner)
  | expression levels tokens p rest inner ih => exact expression_arithmetic.mpr ih
  | present levels tokens p rest target sign ih => exact condition_exact.mpr (.present p rest ih sign)
  | compare levels tokens p behind operator later l rest target sign moved compared ih =>
    exact condition_exact.mpr (.compare p behind operator later l rest ih sign moved compared)
  | bare levels tokens c rest apart single ih => exact conditionGroup_exact.mpr (.bare c rest apart ih)
  | enclosed levels tokens behind all closing rest head moved inner closed ih =>
    exact conditionGroup_exact.mpr (.enclosed behind all closing rest head moved ih closed)
  | noMore levels all tokens apart => exact fun _ _ => moreConditions_stays apart
  | further levels before tokens behind group later all rest head moved next more ihNext ihMore =>
    intro turns long
    have shorter := (conditionGroup_crosses advances_crossing (level_advances levels) ihNext).length_le
    have longer := next_length moved head
    cases turns with
    | zero => omega
    | succ turns =>
      exact moreConditions_exact.mpr (.further behind group later all rest head moved ihNext
        (ihMore turns (by omega)))
  | conditions levels tokens group behind all rest first more ihFirst ihMore =>
    exact conditions_exact.mpr ⟨group, behind, ihFirst, ihMore _ (Nat.le_refl _)⟩
  | lastKey levels tokens direction behind p rest mark moved path noComma noMark ih =>
    intro turns long
    have longer := direction_length mark moved
    cases turns with
    | zero => omega
    | succ turns =>
      exact sortKeys_exact.mpr (.last direction behind p rest mark moved (ih Grammar.tiers (by decide)) noComma
        noMark)
  | key levels tokens direction behind p later keys rest mark moved path noComma isMark more ihPath ihMore =>
    intro turns long
    have first : Grammar.path s (level s levels) behind = _ := ihPath Grammar.tiers (by decide)
    have shorter := (path_crosses advances_crossing (level_advances levels) first).length_le
    have longer := direction_length mark moved
    cases turns with
    | zero => omega
    | succ turns =>
      exact sortKeys_exact.mpr (.next direction behind p later keys rest mark moved first noComma isMark
        (ihMore turns (by omega)))
  | commaKey levels tokens direction behind p comma later keys rest mark moved path isComma again more ihPath
      ihMore =>
    intro turns long
    have first : Grammar.path s (level s levels) behind = _ := ihPath Grammar.tiers (by decide)
    have shorter := (path_crosses advances_crossing (level_advances levels) first).length_le
    have longer := direction_length mark moved
    have longerAgain := next_length again isComma
    cases turns with
    | zero => omega
    | succ turns =>
      exact sortKeys_exact.mpr (.comma direction behind p comma later keys rest mark moved first isComma again
        (ihMore turns (by omega)))
  | fullSlice levels tokens rest head moved => exact bracketContent_exact.mpr (.fullSlice rest head moved)
  | place levels tokens p rest read => exact bracketContent_exact.mpr (.place p rest (indexOrSlice_starts read) read)
  | fields levels tokens name behind p rest named moved list =>
    exact bracketContent_exact.mpr (.fields name behind p rest named moved list)
  | filter levels tokens behind all rest head moved read ih =>
    exact bracketContent_exact.mpr (.filter behind all rest head moved ih)
  | sort levels tokens keys rest read ih =>
    exact bracketContent_exact.mpr (.sort keys rest (keys_start read) (ih _ (Nat.le_refl _)))
  | body levels tokens p closing rest content closed ih => exact bracketBody_exact.mpr ⟨closing, ih, closed⟩

theorem expression_derived :
    expression s (level s levels) tokens = .ok (p, rest) ↔ Derives s (.expression levels tokens p rest) :=
  ⟨derives_expression (level_derived levels), Derives.read⟩

theorem level_below {levels levels' : Nat} (enough : levels + 1 ≤ levels') :
    ∃ below, levels' = below + 1 ∧ levels ≤ below := by
  cases levels' with
  | zero => cases enough
  | succ below => exact ⟨below, rfl, Nat.le_of_succ_le_succ enough⟩

-- What is derived keeps to every relation that the readers keep to.
theorem Derives.crosses {R : List Lexeme → List Lexeme → Prop} (crossing : Crossing s R)
    (derives : Derives s judgment) : R judgment.tokens judgment.rest := by
  have below := level_crosses crossing judgment.levels
  cases judgment with
  | atom => exact atom_crosses crossing below derives.read
  | tail levels least left tokens p rest =>
    exact pathTail_crosses crossing below (fun _ => pathWithin_crosses crossing below)
      (derives.read 7 tokens.length (Nat.le_add_right _ _) (Nat.le_refl _))
  | path => exact pathWithin_crosses crossing below (derives.read 7 (Nat.le_add_right _ _))
  | operand => exact operand_crosses crossing below derives.read
  | arithmetic => exact arithmetic_crosses crossing below derives.read
  | expression => exact expression_crosses crossing below derives.read
  | condition => exact condition_crosses crossing below derives.read
  | group => exact conditionGroup_crosses crossing below derives.read
  | more => exact moreConditions_crosses crossing below (derives.read _ (Nat.le_refl _))
  | conditions => exact conditions_crosses crossing below derives.read
  | keys => exact sortKeys_crosses crossing below (derives.read _ (Nat.le_refl _))
  | content => exact bracketContent_crosses crossing below derives.read
  | body => exact bracketBody_crosses crossing below derives.read

theorem Derives.length_le (derives : Derives s judgment) : judgment.rest.length ≤ judgment.tokens.length :=
  (derives.crosses advances_crossing).length_le

theorem wholeWithin_exact {last : Position} (ended : s.stop = .endOfText last) :
    wholeWithin levels s tokens = .ok p ↔ Derives s (.expression levels tokens p []) := by
  rw [← expression_derived]
  constructor
  · intro read
    obtain ⟨_, _, read⟩ := bind_ok read
    obtain ⟨⟨q, rest⟩, inner, read⟩ := bind_ok read
    dsimp only at read
    split at read
    · rename_i all
      cases all
      cases read
      exact inner
    · exact absurd read unexpected_rejects
  · intro read
    have demanded : s.demand tokens = .ok () := demand_ended ended
    unfold wholeWithin
    rw [bind_of_ok demanded, bind_of_ok read]
    exact if_pos rfl

end Grammar

-- A text is accepted if reading it meets no fault and its tokens have a derivation to their end.
theorem Path.ofTextWithin_exact {levels : Nat} {profile : Profile} {text : String} {p : Path} :
    Path.ofTextWithin levels profile text = .ok p ↔
      let stream := TokenStream.ofText profile text
      (∃ last, stream.stop = .endOfText last) ∧
        Grammar.Derives ⟨profile, stream.stop⟩ (.expression levels stream.lexemes p []) := by
  constructor
  · intro read
    obtain ⟨last, ended⟩ := Grammar.wholeWithin_ended read
    exact ⟨⟨last, ended⟩, (Grammar.wholeWithin_exact ended).mp read⟩
  · rintro ⟨⟨last, ended⟩, derives⟩
    exact (Grammar.wholeWithin_exact ended).mpr derives

end TreePath
