import TreePath.Proofs.Path.Locality
import TreePath.Proofs.Token.Closing
namespace TreePath

-- What stands behind the round bracket that closes one more than this many open ones.
def behindClosing : Nat → List Token → Option (List Token)
  | _, [] => none
  | depth, .leftParen :: rest => behindClosing (depth + 1) rest
  | 0, .rightParen :: rest => some rest
  | depth + 1, .rightParen :: rest => behindClosing depth rest
  | depth, _ :: rest => behindClosing depth rest

-- Up to the rest, the tokens start with no round bracket, or with one that is closed just before the rest
-- and within which the same holds again.
inductive Grouped : List Token → List Token → Prop where
  | bare (tokens rest : List Token) (apart : tokens.head? ≠ some .leftParen) : Grouped tokens rest
  | group (tokens rest : List Token) (closed : behindClosing 0 tokens = some rest)
      (inner : Grouped tokens (.rightParen :: rest)) : Grouped (.leftParen :: tokens) rest

variable {depth : Nat} {token : Token} {tokens rest : List Token}

theorem behindClosing_plain (plain : token.isRound = false) :
    behindClosing depth (token :: tokens) = behindClosing depth tokens := by
  cases token with
  | leftParen | rightParen => cases plain
  | _ => cases depth <;> rfl

-- Square brackets do not count.
theorem behindClosing_append : behindClosing depth (tokens ++ [.rightBracket]) =
    (behindClosing depth tokens).map (· ++ [.rightBracket]) := by
  induction tokens generalizing depth with
  | nil => cases depth <;> rfl
  | cons token tokens ih =>
    cases round : token.isRound with
    | false => rw [List.cons_append, behindClosing_plain round, behindClosing_plain round, ih]
    | true =>
      cases token with
      | leftParen => exact ih
      | rightParen =>
        cases depth with
        | zero => rfl
        | succ depth => exact ih
      | _ => cases round

theorem grouped_append : Grouped (tokens ++ [.rightBracket]) (rest ++ [.rightBracket]) ↔ Grouped tokens rest := by
  constructor
  · intro grouped
    generalize before : tokens ++ [.rightBracket] = all at grouped
    generalize after : rest ++ [.rightBracket] = behind at grouped
    induction grouped generalizing tokens rest with
    | bare all behind apart =>
      refine .bare _ _ fun head => ?_
      cases tokens with
      | nil => cases head
      | cons token tokens =>
        subst before
        exact apart head
    | group all behind closed inner ih =>
      subst after
      cases tokens with
      | nil => cases before
      | cons token tokens =>
        obtain ⟨rfl, rfl⟩ := List.cons.inj before
        replace closed := behindClosing_append.symm.trans closed
        obtain ⟨rest', closed, same⟩ := Option.map_eq_some_iff.mp closed
        cases List.append_cancel_right same
        exact .group _ _ closed (ih rfl rfl)
  · intro grouped
    induction grouped with
    | bare tokens rest apart =>
      refine .bare _ _ fun head => ?_
      cases tokens with
      | nil => cases head
      | cons token tokens => exact apart head
    | group tokens rest closed inner ih =>
      refine .group _ _ (behindClosing_append.trans ?_) ih
      rw [closed]
      rfl

namespace Grammar

variable {s : Setting} {levels levels' least : Nat} {tokens rest : List Lexeme} {left p : Path} {all : List Condition}

def Paired (tokens rest : List Lexeme) : Prop :=
  ∀ depth, behindClosing depth (tokens.map Lexeme.token) = behindClosing depth (rest.map Lexeme.token)

theorem spelled_next {token : Token} (head : head? tokens = some token) (moved : s.next tokens = .ok rest) :
    tokens.map Lexeme.token = token :: rest.map Lexeme.token := by
  cases tokens with
  | nil => cases head
  | cons lexeme tokens =>
    cases next_tail moved
    cases head
    rfl

theorem paired_crossing : Crossing s Paired where
  refl _ _ := rfl
  trans first second depth := (first depth).trans (second depth)
  token head plain moved depth := by
    rw [spelled_next head moved, behindClosing_plain plain]
  parens head moved inner closed depth := by
    obtain ⟨closes, last⟩ := expect_exact.mp closed
    have within := inner (depth + 1)
    rw [spelled_next closes last] at within
    rw [spelled_next head moved]
    exact within

theorem Paired.closing {closing : List Lexeme} (paired : Paired tokens closing)
    (closed : s.expect .rightParen .closingParen closing = .ok rest) :
    behindClosing 0 (tokens.map Lexeme.token) = some (rest.map Lexeme.token) := by
  obtain ⟨closes, last⟩ := expect_exact.mp closed
  have within := paired 0
  rw [spelled_next closes last] at within
  exact within

theorem tightness_combine {operator : Infix} {left right : Path} :
    (operator.combine left right).tightness ≤ 6 := by
  cases operator with
  | union => cases left <;> exact (by decide : 5 ≤ 6)
  | descendants => exact (by decide : 3 ≤ 6)
  | child => exact (by decide : 4 ≤ 6)
  | whereSome | whereNone => exact Nat.le_refl 6

-- Behind the left side there is nothing more, or an operator or a bracket, of which it becomes an operand.
theorem tail_moves (derives : Derives s (.tail levels least left tokens p rest)) :
    (p = left ∧ rest = tokens) ∨
      (p.tightness ≤ 6 ∧ rest.length < tokens.length ∧ head? tokens ≠ some .ampersand) := by
  generalize same : Judgment.tail levels least left tokens p rest = judgment at derives
  induction derives generalizing levels least left tokens p rest
  case ends =>
    cases same
    exact .inl ⟨rfl, rfl⟩
  case segment head tight moved body more _ ih =>
    cases same
    have shorter := body.length_le
    dsimp only [Judgment.tokens, Judgment.rest] at shorter
    have longer := next_length moved head
    rcases ih rfl with ⟨rfl, rfl⟩ | ⟨loose, shortest, -⟩
    · exact .inr ⟨(by decide : 4 ≤ 6), by omega, by simp [head]⟩
    · exact .inr ⟨loose, by omega, by simp [head]⟩
  case binary operator _ right _ _ _ sign tight moved operand more _ ih =>
    cases same
    have shorter := operand.length_le
    dsimp only [Judgment.tokens, Judgment.rest] at shorter
    have longer := next_length moved (sign_head sign)
    rcases ih rfl with ⟨rfl, rfl⟩ | ⟨loose, shortest, -⟩
    · exact .inr ⟨tightness_combine, by omega, fun head => by simp [head, Infix.ofToken?] at sign⟩
    · exact .inr ⟨loose, by omega, fun head => by simp [head, Infix.ofToken?] at sign⟩
  all_goals cases same

-- The ways to read what starts with a round bracket: up to the closing one, or further.
inductive Opened (s : Setting) (tokens : List Lexeme) : Nat → Path → List Lexeme → Prop where
  | whole (below : Nat) (behind : List Lexeme) (p : Path) (closing rest : List Lexeme)
      (moved : s.next tokens = .ok behind) (inner : Derives s (.expression below behind p closing))
      (closed : s.expect .rightParen .closingParen closing = .ok rest) : Opened s tokens (below + 1) p rest
  | further (below : Nat) (behind : List Lexeme) (q : Path) (closing later : List Lexeme) (p : Path)
      (rest : List Lexeme) (moved : s.next tokens = .ok behind)
      (inner : Derives s (.expression below behind q closing))
      (closed : s.expect .rightParen .closingParen closing = .ok later) (goesOn : rest.length < later.length)
      (apart : head? later ≠ some .ampersand) : Opened s tokens (below + 1) p rest

theorem path_opened (head : head? tokens = some .leftParen) (derives : Derives s (.path levels least tokens p rest)) :
    Opened s tokens levels p rest := by
  cases derives with
  | path _ _ _ left behind _ _ first more =>
    cases first with
    | word _ _ _ _ read =>
      cases atom_exact.mp read with
      | parens behind p closing rest head moved inner => cases inner
      | this | fields => simp_all [Token.fieldName?]
      | wildcard | root | operator | brackets => simp_all
    | brackets _ _ _ _ _ other => simp_all
    | parens below _ behind _ closing later _ moved inner closed =>
      rcases tail_moves more with ⟨rfl, rfl⟩ | ⟨-, goesOn, apart⟩
      · exact .whole _ _ _ _ _ moved inner closed
      · exact .further _ _ _ _ _ _ _ moved inner closed goesOn apart

theorem expression_opened (head : head? tokens = some .leftParen)
    (derives : Derives s (.expression levels tokens p rest)) : Opened s tokens levels p rest := by
  cases derives with
  | expression _ _ _ _ inner =>
    cases inner with
    | alone _ _ _ _ operand sign =>
      cases operand with
      | operand _ _ _ _ path => exact path_opened head path
    | arithmetic _ _ left behind operator later right rest operand sign moved inner =>
      have shorter := inner.length_le
      dsimp only [Judgment.tokens, Judgment.rest] at shorter
      have isSign := (arithmeticOperator?_exact.mp sign).2
      have longer : behind.length = later.length + 1 := next_length moved isSign
      cases operand with
      | number | real => simp_all
      | operand _ _ _ _ path =>
        cases path_opened head path with
        | whole _ _ _ closing _ within inner closed =>
          refine .further _ _ _ closing _ _ _ within inner closed (by omega) ?_
          rw [isSign]
          cases operator <;> decide
        | further _ _ q closing first _ _ within inner closed goesOn apart =>
          exact .further _ _ q closing first _ _ within inner closed (by omega) apart

-- An expression in which nothing follows the round brackets it starts with is read as one condition.
theorem conditions_of_grouped (grouped : Grouped (tokens.map Lexeme.token) (rest.map Lexeme.token))
    (derives : Derives s (.expression levels tokens p rest))
    (ends : ∀ token ∈ head? rest, token = .rightParen ∨ token = .rightBracket) :
    Derives s (.conditions levels tokens [.present p] rest) := by
  have noMore : head? rest ≠ some .ampersand := fun head => by simpa using ends _ head
  refine .conditions _ _ _ _ _ _ ?_ (.noMore _ _ _ noMore)
  generalize before : tokens.map Lexeme.token = spelled at grouped
  generalize after : rest.map Lexeme.token = behind at grouped
  induction grouped generalizing levels tokens p rest with
  | bare spelled behind apart =>
    refine .bare _ _ _ _ (fun head => apart ?_) (.present _ _ _ _ derives ?_)
    · rw [← before, List.head?_map]
      exact head
    · cases head : head? rest with
      | none => rfl
      | some token => rcases ends token head with rfl | rfl <;> rfl
  | group spelled behind closed inner ih =>
    have head : head? tokens = some .leftParen := by
      rw [head?, ← List.head?_map, before]
      rfl
    cases expression_opened head derives with
    | whole below inside _ closing _ moved inner last =>
      have same := (spelled_next head moved).symm.trans before
      have closes := expect_exact.mp last
      have isParen : ∀ token ∈ head? closing, token = .rightParen ∨ token = .rightBracket := by
        intro token here
        exact .inl (Option.some.inj (here.symm.trans closes.1))
      have apart : head? closing ≠ some .ampersand := by simp [closes.1]
      refine .enclosed _ _ _ _ _ _ head moved (.conditions _ _ _ _ _ _
        (ih inner isParen apart (List.cons.inj same).2 ?_) (.noMore _ _ _ apart)) last
      rw [spelled_next closes.1 closes.2, after]
    | further below inside q closing later _ _ moved inner last goesOn apart =>
      have same := (spelled_next head moved).symm.trans before
      have paired : behindClosing 0 (inside.map Lexeme.token) = some (later.map Lexeme.token) :=
        (inner.crosses paired_crossing).closing last
      rw [(List.cons.inj same).2, closed, ← after] at paired
      have lengths := congrArg List.length (Option.some.inj paired)
      simp only [List.length_map] at lengths
      omega

-- An expression and conditions behind which as many tokens are left end at the same place.
theorem ends_unique {rest' : List Lexeme} (expression : Derives s (.expression levels tokens p rest))
    (conditions : Derives s (.conditions levels' tokens all rest')) (lengths : rest'.length = rest.length) :
    rest' = rest := by
  have behind := (expression.crosses advances_crossing).suffix
  have behind' := (conditions.crosses advances_crossing).suffix
  exact (List.suffix_of_suffix_length_le behind' behind (Nat.le_of_eq lengths)).eq_of_length lengths

-- Behind an opening bracket, they end in front of the same closing one.
theorem closing_unique {closing closing' rest' : List Lexeme}
    (expression : Derives s (.expression levels tokens p closing))
    (closed : s.expect .rightParen .closingParen closing = .ok rest)
    (conditions : Derives s (.conditions levels' tokens all closing'))
    (closed' : s.expect .rightParen .closingParen closing' = .ok rest') : closing' = closing := by
  have paired := ((expression.crosses paired_crossing).closing closed).symm.trans
    ((conditions.crosses paired_crossing).closing closed')
  have lengths := congrArg List.length (Option.some.inj paired)
  simp only [List.length_map] at lengths
  obtain ⟨closes, last⟩ := expect_exact.mp closed
  obtain ⟨closes', last'⟩ := expect_exact.mp closed'
  exact ends_unique expression conditions
    ((next_length last' closes').trans ((congrArg (· + 1) lengths.symm).trans (next_length last closes).symm))

-- What is read as conditions up to the same place starts with no round bracket that something follows.
theorem grouped_of_conditions (derives : Derives s (.expression levels tokens p rest))
    (read : Derives s (.conditions levels' tokens all rest)) :
    Grouped (tokens.map Lexeme.token) (rest.map Lexeme.token) := by
  induction levels generalizing levels' tokens p rest all with
  | zero =>
    refine .bare _ _ fun head => ?_
    rw [List.head?_map] at head
    cases expression_opened head derives
  | succ levels ih =>
    by_cases head : head? tokens = some .leftParen
    · cases read with
      | conditions _ _ group after _ _ first more =>
        cases first with
        | bare _ _ _ _ apart => exact absurd head apart
        | enclosed below behind _ _ closing _ _ moved inner closed =>
          cases expression_opened head derives with
          | whole _ behind' _ closing' _ moved' expression closed' =>
            cases moved.symm.trans moved'
            cases closing_unique expression closed' inner closed
            cases closed.symm.trans closed'
            rw [spelled_next head moved]
            have closes := expect_exact.mp closed
            refine .group _ _ ((expression.crosses paired_crossing).closing closed) ?_
            rw [← spelled_next closes.1 closes.2]
            exact ih expression inner
          | further _ behind' _ closing' later _ _ moved' expression closed' goesOn apart =>
            cases moved.symm.trans moved'
            cases closing_unique expression closed' inner closed
            cases closed.symm.trans closed'
            cases more with
            | noMore => exact absurd goesOn (Nat.lt_irrefl _)
            | further _ _ _ _ _ _ _ _ isAmpersand => exact absurd isAmpersand apart
    · exact .bare _ _ (by rwa [List.head?_map])

-- Behind the opening square bracket stand a question mark, conditions and the closing bracket.
inductive Filtered (s : Setting) (tokens : List Lexeme) (levels : Nat) (all : List Condition)
    (rest : List Lexeme) : Prop where
  | mk (mark behind closing : List Lexeme) (opens : head? tokens = some .leftBracket)
      (moved : s.next tokens = .ok mark) (marked : head? mark = some .question) (again : s.next mark = .ok behind)
      (read : Derives s (.conditions levels behind all closing))
      (closed : s.expect .rightBracket .closingBracket closing = .ok rest) : Filtered s tokens levels all rest

theorem expression_of_filtered (filtered : Filtered s tokens levels all []) :
    Derives s (.expression (levels + 1) tokens (.filter all) []) := by
  obtain ⟨mark, behind, closing, opens, moved, marked, again, read, closed⟩ := filtered
  have body : Derives s (.body levels mark (.filter all) []) :=
    .body _ _ _ _ _ (.filter _ _ _ _ _ marked again read) closed
  have ends : arithmeticOperator? s [] = none := by
    unfold arithmeticOperator?
    split <;> rfl
  exact .expression _ _ _ _ (.alone _ _ _ _ (.operand _ _ _ _ (.path _ _ _ _ _ _ _
    (.brackets _ _ _ _ _ opens moved body) (.ends _ _ _ _ nofun nofun))) ends)

theorem filtered_of_content (derives : Derives s (.content levels tokens (.filter all) rest)) :
    head? tokens = some .question ∧ ∃ behind, s.next tokens = .ok behind ∧
      Derives s (.conditions levels behind all rest) := by
  cases derives with
  | filter _ _ behind _ _ marked again read => exact ⟨marked, behind, again, read⟩
  | place _ _ _ _ read => cases indexOrSlice_exact.mp read
  | fields _ _ _ _ _ _ _ _ list =>
    obtain ⟨_, _, same⟩ := bind_ok list
    cases same

theorem filtered_of_atom (head : head? tokens = some .leftBracket)
    (derives : Derives s (.atom (levels + 1) tokens (.filter all) rest)) : Filtered s tokens levels all rest := by
  cases derives with
  | word _ _ _ _ read =>
    cases atom_exact.mp read with
    | brackets behind p rest head moved body => cases body
    | operator | fields | parens => simp_all [Token.fieldName?]
  | brackets _ _ mark _ _ opens moved body =>
    cases body with
    | body _ _ _ closing _ content closed =>
      obtain ⟨marked, behind, again, read⟩ := filtered_of_content content
      exact ⟨mark, behind, closing, opens, moved, marked, again, read, closed⟩
  | parens _ _ _ _ _ _ other => simp_all

-- What becomes an operand of something is no filter, so nothing follows a filter's brackets.
theorem filtered_of_expression (head : head? tokens = some .leftBracket)
    (derives : Derives s (.expression (levels + 1) tokens (.filter all) rest)) : Filtered s tokens levels all rest := by
  cases derives with
  | expression _ _ _ _ inner =>
    cases inner with
    | alone _ _ _ _ operand sign =>
      cases operand with
      | operand _ _ _ _ path =>
        cases path with
        | path _ _ _ left behind _ _ first more =>
          rcases tail_moves more with ⟨rfl, rfl⟩ | ⟨loose, -⟩
          · exact filtered_of_atom head first
          · exact absurd loose (by decide : ¬9 ≤ 6)

end Grammar

variable {text : String} {p : Path} {levels : Nat} {profile : Profile}

-- Further levels do no harm.
theorem Path.ofTextWithin_mono {levels' : Nat} (enough : levels ≤ levels')
    (read : Path.ofTextWithin levels profile text = .ok p) : Path.ofTextWithin levels' profile text = .ok p := by
  obtain ⟨⟨last, ended⟩, derives⟩ := Path.ofTextWithin_exact.mp read
  have onward : Grammar.Onward ⟨profile, (TokenStream.ofText profile text).stop⟩
      ⟨profile, (TokenStream.ofText profile text).stop⟩ [] := ⟨rfl, ⟨last, ended⟩, nofun⟩
  obtain ⟨rest, ending, carried⟩ := derives.carried onward levels' _ enough (List.append_nil _).symm
  cases List.map_eq_nil_iff.mp ending
  exact Path.ofTextWithin_exact.mpr ⟨⟨last, ended⟩, carried⟩

theorem reads_enclosed (read : Reads .extended text.toList tokens []) :
    Reads .extended ("[?" ++ text ++ "]").toList (.leftBracket :: .question :: (tokens ++ [.rightBracket])) [] := by
  have question : ∀ rest, Reads .extended ('?' :: rest) [.question] rest :=
    fun rest => .token '?' rest ⟨.question, ['?'], rest⟩ [] rest (by decide) rfl (.done rest)
  have spelled : ("[?" ++ text ++ "]").toList = '[' :: '?' :: (text.toList ++ ']' :: []) := by
    simp
  rw [spelled]
  exact (Reads.mark rfl).append ((question _).append (read.closing.append (.mark rfl)))

-- An expression that leaves a level free is a condition of a filter exactly if nothing follows the round
-- brackets it starts with.
theorem Path.ofText_condition_iff (shallow : Path.ofTextWithin (maxNesting - 1) .extended text = .ok p) :
    Path.ofText .extended text = .ok p ∧
      (Path.ofText .extended ("[?" ++ text ++ "]") = .ok (.filter [.present p]) ↔
        Grouped ((TokenStream.ofText .extended text).lexemes.map Lexeme.token) []) := by
  refine ⟨Path.ofTextWithin_mono (by decide) shallow, ?_⟩
  obtain ⟨⟨last, ended⟩, derives⟩ := Path.ofTextWithin_exact.mp shallow
  have read := reads_enclosed (Reads.ofText_iff.mpr ⟨rfl, last, ended⟩)
  obtain ⟨spelled, last', ended'⟩ := Reads.ofText_iff.mp read
  obtain ⟨bracket, tokens', same, isBracket, spelled⟩ := List.map_eq_cons_iff.mp spelled
  obtain ⟨question, inside, rfl, isQuestion, continues⟩ := List.map_eq_cons_iff.mp spelled
  generalize stopped : (TokenStream.ofText .extended ("[?" ++ text ++ "]")).stop = stop at ended'
  have onward : Grammar.Onward ⟨.extended, (TokenStream.ofText .extended text).stop⟩ ⟨.extended, stop⟩
      [.rightBracket] := ⟨rfl, ⟨last', ended'⟩, by simp⟩
  obtain ⟨closing, ending, carried⟩ := derives.carried onward (maxNesting - 1) inside (Nat.le_refl _) continues
  rw [Path.ofText_within, Path.ofTextWithin_exact]
  dsimp only
  rw [same, stopped]
  have opens : Grammar.head? (bracket :: question :: inside) = some .leftBracket := congrArg some isBracket
  have marked : Grammar.head? (question :: inside) = some .question := congrArg some isQuestion
  have ending : closing.map Lexeme.token = [] ++ [.rightBracket] := ending
  have onlyBracket : closing.length = 1 := by simpa using congrArg List.length ending
  constructor
  · rintro ⟨-, whole⟩
    obtain ⟨mark, behind, closing', -, moved, -, again, read, closed⟩ :=
      Grammar.filtered_of_expression opens whole
    cases Grammar.next_tail moved
    cases Grammar.next_tail again
    obtain ⟨closes, last⟩ := Grammar.expect_exact.mp closed
    cases Grammar.ends_unique carried read ((Grammar.next_length last closes).trans onlyBracket.symm)
    have grouped := Grammar.grouped_of_conditions carried read
    rw [continues, ending] at grouped
    exact grouped_append.mp grouped
  · intro grouped
    have head : Grammar.head? closing = some .rightBracket := by
      rw [Grammar.head?, ← List.head?_map, ending]
      rfl
    have read := Grammar.conditions_of_grouped (by rw [continues, ending]; exact grouped_append.mpr grouped) carried
      fun token here => .inr (Option.some.inj (here.symm.trans head))
    refine ⟨⟨last', ended'⟩, Grammar.expression_of_filtered
      ⟨_, inside, closing, opens, Grammar.next_ended ended', marked, Grammar.next_ended ended', read,
        Grammar.expect_exact.mpr ⟨head, ?_⟩⟩⟩
    have none : closing.tail = [] := List.length_eq_zero_iff.mp (by rw [List.length_tail, onlyBracket])
    rw [Grammar.next_ended ended', none]

-- Two pairs of round brackets around an expression.
theorem Path.ofText_condition_iff_enclosed :
    let p := Path.arithmetic .multiply (.path (.child .root (.field "price"))) (.literal (.integer 100))
    Path.ofTextWithin (maxNesting - 1) .extended "(($.price * 100))" = .ok p ∧
      Path.ofText .extended "[?(($.price * 100))]" = .ok (.filter [.present p]) := by
  intro p
  have shallow : Path.ofTextWithin (maxNesting - 1) .extended "(($.price * 100))" = .ok p := rfl
  have spelled : (TokenStream.ofText .extended "(($.price * 100))").lexemes.map Lexeme.token =
      [.leftParen, .leftParen, .dollar, .dot, .identifier "price", .star, .number 100, .rightParen, .rightParen] := by
    decide +kernel
  refine ⟨shallow, (Path.ofText_condition_iff shallow).2.mpr ?_⟩
  rw [spelled]
  exact .group _ _ rfl (.group _ _ rfl (.bare _ _ nofun))

-- Something follows the round brackets, which are taken for a group of conditions.
theorem Path.ofText_condition_parens :
    let p := Path.child (.field "a") (.field "b")
    Path.ofTextWithin (maxNesting - 1) .extended "(a).b" = .ok p ∧
      Path.ofText .extended "[?(a).b]" ≠ .ok (.filter [.present p]) := by
  intro p
  have refused : Path.ofText .extended "[?(a).b]" = .error (.unexpectedToken .dot .closingBracket ⟨1, 6⟩) := rfl
  refine ⟨rfl, ?_⟩
  rw [refused]
  exact nofun

end TreePath
