import TreePath.Proofs.Path.Derivation
namespace TreePath.Grammar

-- Tokens that are the same up to where those end, and these go on: with nothing, or with a square bracket
-- that closes what has been opened further left. Their places in the text may be others.
def Continues (tail : List Token) (tokens tokens' : List Lexeme) : Prop :=
  tokens'.map Lexeme.token = tokens.map Lexeme.token ++ tail

-- A setting for the tokens that go on, of the same profile.
structure Onward (s s' : Setting) (tail : List Token) : Prop where
  profile : s'.profile = s.profile
  ended : ∃ last, s'.stop = .endOfText last
  closing : ∀ token ∈ tail.head?, token = .rightBracket

namespace Judgment

-- The same construct on another level, and in other tokens.
def moved (levels : Nat) (tokens rest : List Lexeme) : Judgment → Judgment
  | atom _ _ p _ => atom levels tokens p rest
  | tail _ least left _ p _ => tail levels least left tokens p rest
  | path _ least _ p _ => path levels least tokens p rest
  | operand _ _ o _ => operand levels tokens o rest
  | arithmetic _ _ o _ => arithmetic levels tokens o rest
  | expression _ _ p _ => expression levels tokens p rest
  | condition _ _ c _ => condition levels tokens c rest
  | group _ _ all _ => group levels tokens all rest
  | more _ before _ all _ => more levels before tokens all rest
  | conditions _ _ all _ => conditions levels tokens all rest
  | keys _ _ all _ => keys levels tokens all rest
  | content _ _ p _ => content levels tokens p rest
  | body _ _ p _ => body levels tokens p rest

end Judgment

variable {α β : Type} {s s' : Setting} {tail : List Token} {judgment : Judgment} {tokens tokens' rest : List Lexeme}
  {token : Token} {expected : Expectation} {p : Path}

namespace Onward

variable (onward : Onward s s' tail)
include onward

theorem extended : s'.isExtended = s.isExtended :=
  congrArg Profile.isExtended onward.profile

-- Nothing that takes a closing bracket for the end of the tokens sees a difference.
theorem agrees (see : Option Token → β) (blind : see (some .rightBracket) = see none)
    (continues : Continues tail tokens tokens') : see (head? tokens') = see (head? tokens) := by
  unfold Continues at continues
  cases tokens with
  | nil =>
    cases tokens' with
    | nil => rfl
    | cons lexeme tokens' =>
      have closing : lexeme.token = .rightBracket := onward.closing _ (by
        change tail.head? = some lexeme.token
        rw [← List.nil_append tail]
        exact congrArg List.head? continues.symm)
      change see (some lexeme.token) = see none
      rw [closing, blind]
  | cons lexeme tokens =>
    cases tokens' with
    | nil => cases continues
    | cons lexeme' tokens' =>
      exact congrArg (fun token => see (some token)) (List.cons.inj continues).1

theorem head_iff (token : Token) (other : token ≠ .rightBracket) (continues : Continues tail tokens tokens') :
    head? tokens' = some token ↔ head? tokens = some token := by
  have same := onward.agrees (fun head => decide (head = some token)) (by simp [other.symm]) continues
  simpa using same

theorem next (continues : Continues tail tokens tokens') (head : head? tokens = some token)
    (moved : s.next tokens = .ok rest) : ∃ rest', s'.next tokens' = .ok rest' ∧ Continues tail rest rest' := by
  obtain ⟨last, ended⟩ := onward.ended
  refine ⟨tokens'.tail, next_ended ended, ?_⟩
  rw [next_tail moved]
  unfold Continues at continues ⊢
  cases tokens with
  | nil => cases head
  | cons lexeme tokens =>
    rw [List.map_tail, continues]
    rfl

theorem past (continues : Continues tail tokens tokens') (head : head? tokens = some token)
    (moved : s.next tokens = .ok rest) :
    ∃ rest', head? tokens' = some token ∧ s'.next tokens' = .ok rest' ∧ Continues tail rest rest' := by
  obtain ⟨rest', moved', later⟩ := onward.next continues head moved
  refine ⟨rest', ?_, moved', later⟩
  cases tokens with
  | nil => cases head
  | cons lexeme tokens =>
    cases tokens' with
    | nil => cases continues
    | cons lexeme' tokens' => exact (congrArg some (List.cons.inj continues).1).trans head

-- Past a token that means something to a function that a closing bracket means nothing to.
theorem found (use : Token → Option β) {b : β} (blind : use .rightBracket = none)
    (continues : Continues tail tokens tokens') (found : (head? tokens).bind use = some b)
    (moved : s.next tokens = .ok rest) :
    ∃ rest', (head? tokens').bind use = some b ∧ s'.next tokens' = .ok rest' ∧ Continues tail rest rest' := by
  obtain ⟨token, head, _⟩ := Option.bind_eq_some_iff.mp found
  obtain ⟨rest', moved', later⟩ := onward.next continues head moved
  exact ⟨rest', (onward.agrees (fun head => head.bind use) blind continues).trans found, moved', later⟩

theorem expect (continues : Continues tail tokens tokens')
    (moved : s.expect token expected tokens = .ok rest) :
    ∃ rest', s'.expect token expected tokens' = .ok rest' ∧ Continues tail rest rest' := by
  obtain ⟨head, moved⟩ := expect_exact.mp moved
  obtain ⟨rest', head', moved', later⟩ := onward.past continues head moved
  exact ⟨rest', expect_exact.mpr ⟨head', moved'⟩, later⟩

theorem moreNames {names : List String} (continues : Continues tail tokens tokens')
    (read : MoreNames s tokens names rest) :
    ∃ rest', MoreNames s' tokens' names rest' ∧ Continues tail rest rest' := by
  induction read generalizing tokens' with
  | ends tokens apart =>
    refine ⟨tokens', .ends tokens' fun comma' => ?_, continues⟩
    have comma := (onward.head_iff .comma (by decide) continues).mp comma'
    obtain ⟨behind, moved, unnamed⟩ := apart comma
    obtain ⟨behind', moved', inside⟩ := onward.next continues comma moved
    exact ⟨behind', moved', (onward.agrees (fun head => head.bind Token.fieldName?) rfl inside).trans unnamed⟩
  | name tokens behind later name names rest comma moved named again more ih =>
    obtain ⟨behind', comma', moved', inside⟩ := onward.past continues comma moved
    obtain ⟨later', named', again', last⟩ := onward.found Token.fieldName? rfl inside named again
    obtain ⟨rest', more', ending⟩ := ih last
    exact ⟨rest', .name tokens' behind' later' name names rest' comma' moved' named' again' more', ending⟩

theorem fieldList {name : String} (continues : Continues tail tokens tokens')
    (read : fieldList s name tokens = .ok (p, rest)) :
    ∃ rest', Grammar.fieldList s' name tokens' = .ok (p, rest') ∧ Continues tail rest rest' := by
  obtain ⟨⟨names, _⟩, more, same⟩ := bind_ok read
  cases same
  obtain ⟨rest', more', later⟩ := onward.moreNames continues (moreNames_exact.mp more)
  exact ⟨rest', fieldList_read (moreNames_exact.mpr more'), later⟩

theorem number? {bound : Option Int64} (continues : Continues tail tokens tokens')
    (read : number? s tokens = .ok (bound, rest)) :
    ∃ rest', Grammar.number? s' tokens' = .ok (bound, rest') ∧ Continues tail rest rest' := by
  cases number?_exact.mp read with
  | number n rest head moved =>
    obtain ⟨rest', head', moved', later⟩ := onward.past continues head moved
    exact ⟨rest', number?_exact.mpr (.number n rest' head' moved'), later⟩
  | none apart =>
    refine ⟨tokens', number?_exact.mpr (.none fun n head' => ?_), continues⟩
    exact apart n ((onward.head_iff (.number n) nofun continues).mp head')

theorem step? {step : Option Int64} (continues : Continues tail tokens tokens')
    (read : step? s tokens = .ok (step, rest)) :
    ∃ rest', Grammar.step? s' tokens' = .ok (step, rest') ∧ Continues tail rest rest' := by
  have colon := onward.head_iff .colon (by decide) continues
  unfold Grammar.step? at read ⊢
  split at read
  · rename_i head
    obtain ⟨behind, moved, read⟩ := bind_ok read
    obtain ⟨behind', moved', inside⟩ := onward.next continues head moved
    rw [if_pos (colon.mpr head), bind_of_ok moved']
    exact onward.number? inside read
  · rename_i apart
    cases read
    exact ⟨tokens', if_neg fun head => apart (colon.mp head), continues⟩

theorem indexOrSlice (continues : Continues tail tokens tokens')
    (read : indexOrSlice s tokens = .ok (p, rest)) :
    ∃ rest', Grammar.indexOrSlice s' tokens' = .ok (p, rest') ∧ Continues tail rest rest' := by
  cases indexOrSlice_exact.mp read with
  | index i rest read ends =>
    obtain ⟨rest', read', later⟩ := onward.number? continues read
    refine ⟨rest', indexOrSlice_exact.mpr (.index i rest' read' fun colon => ends ?_), later⟩
    exact (onward.head_iff .colon (by decide) later).mp colon
  | slice start stop step colon behind later rest first isColon moved second third moves =>
    obtain ⟨colon', first', atColon⟩ := onward.number? continues first
    obtain ⟨behind', isColon', moved', inside⟩ := onward.past atColon isColon moved
    obtain ⟨later', second', atStep⟩ := onward.number? inside second
    obtain ⟨rest', third', ending⟩ := onward.step? atStep third
    exact ⟨rest', indexOrSlice_exact.mpr (.slice start stop step colon' behind' later' rest' first' isColon' moved'
      second' third' moves), ending⟩

theorem operatorPath {text : String} {position position' : Position}
    (read : operatorPath s text position = .ok p) : Grammar.operatorPath s' text position' = .ok p := by
  unfold Grammar.operatorPath at read ⊢
  rw [onward.extended]
  split at read
  · rename_i this
    rw [if_pos this]
    exact read
  split at read
  · rename_i noThis parent
    rw [if_neg noThis, if_pos parent]
    exact read
  split at read
  · cases read
  · rename_i noThis noParent extended
    rw [if_neg noThis, if_neg noParent, if_neg extended]
    split at read
    · exact read
    · cases read
    · cases read

theorem word (continues : Continues tail tokens tokens') (read : atom s (level s 0) tokens = .ok (p, rest)) :
    ∃ rest', atom s' (level s' 0) tokens' = .ok (p, rest') ∧ Continues tail rest rest' := by
  cases atom_exact.mp read with
  | this rest named extended moved =>
    obtain ⟨rest', named', moved', later⟩ := onward.found Token.fieldName? rfl continues named moved
    exact ⟨rest', atom_exact.mpr (.this rest' named' (onward.extended.trans extended) moved'), later⟩
  | fields name behind p rest named plain moved list =>
    obtain ⟨behind', named', moved', inside⟩ := onward.found Token.fieldName? rfl continues named moved
    obtain ⟨rest', list', later⟩ := onward.fieldList inside list
    rw [← onward.extended] at plain
    exact ⟨rest', atom_exact.mpr (.fields name behind' p rest' named' plain moved' list'), later⟩
  | wildcard rest head moved =>
    obtain ⟨rest', head', moved', later⟩ := onward.past continues head moved
    exact ⟨rest', atom_exact.mpr (.wildcard rest' head' moved'), later⟩
  | root rest head moved =>
    obtain ⟨rest', head', moved', later⟩ := onward.past continues head moved
    exact ⟨rest', atom_exact.mpr (.root rest' head' moved'), later⟩
  | operator text p rest head moved read =>
    obtain ⟨rest', head', moved', later⟩ := onward.past continues head moved
    exact ⟨rest', atom_exact.mpr (.operator text p rest' head' moved' (onward.operatorPath read)), later⟩
  | brackets behind p rest head moved body => cases body
  | parens behind p closing rest head moved inner => cases inner

theorem literal {operator : CompareOperator} {l : Literal} (continues : Continues tail tokens tokens')
    (read : literal s operator tokens = .ok (l, rest)) :
    ∃ rest', Grammar.literal s' operator tokens' = .ok (l, rest') ∧ Continues tail rest rest' := by
  obtain ⟨plain, found, moved, meant⟩ := literal_exact.mp read
  obtain ⟨rest', found', moved', later⟩ := onward.found plainLiteral? rfl continues found moved
  refine ⟨rest', literal_exact.mpr ⟨plain, found', moved', ?_⟩, later⟩
  unfold literalFor at meant ⊢
  split at meant
  · rename_i source
    split at meant
    · exact meant
    · cases meant
  · cases meant
  · exact meant

theorem arithmeticOperator (continues : Continues tail tokens tokens') :
    arithmeticOperator? s' tokens' = arithmeticOperator? s tokens := by
  apply Option.ext
  intro operator
  rw [arithmeticOperator?_exact, arithmeticOperator?_exact, onward.extended,
    onward.head_iff operator.token (by cases operator <;> decide) continues]

theorem direction (continues : Continues tail tokens tokens') : direction? tokens' = direction? tokens := by
  apply Option.ext
  intro direction
  rw [direction?_exact, direction?_exact,
    onward.head_iff direction.token (by cases direction <;> decide) continues]

theorem marked {mark : Direction} (continues : Continues tail tokens tokens')
    (found : direction? tokens = some mark) (moved : s.next tokens = .ok rest) :
    ∃ rest', direction? tokens' = some mark ∧ s'.next tokens' = .ok rest' ∧ Continues tail rest rest' := by
  have same := (onward.direction continues).trans found
  obtain ⟨rest', moved', later⟩ := onward.next continues (direction?_exact.mp found) moved
  exact ⟨rest', same, moved', later⟩

end Onward

-- On no fewer levels, and in tokens that go on, the same is derived, up to the same place.
def Judgment.Carried (s' : Setting) (tail : List Token) (judgment : Judgment) : Prop :=
  ∀ levels tokens, judgment.levels ≤ levels → Continues tail judgment.tokens tokens →
    ∃ rest, Continues tail judgment.rest rest ∧ Derives s' (judgment.moved levels tokens rest)

theorem Derives.carried (onward : Onward s s' tail) (derives : Derives s judgment) :
    judgment.Carried s' tail := by
  induction derives with
  | word levels tokens p rest read =>
    intro levels' tokens' enough continues
    obtain ⟨rest', read', later⟩ := onward.word continues read
    exact ⟨rest', later, .word _ _ _ _ read'⟩
  | brackets levels tokens behind p rest head moved body ih =>
    intro levels' tokens' enough continues
    obtain ⟨below, rfl, inside⟩ := level_below enough
    obtain ⟨behind', head', moved', within⟩ := onward.past continues head moved
    obtain ⟨rest', later, body'⟩ := ih below behind' inside within
    exact ⟨rest', later, .brackets _ _ _ _ _ head' moved' body'⟩
  | parens levels tokens behind p closing rest head moved inner closed ih =>
    intro levels' tokens' enough continues
    obtain ⟨below, rfl, inside⟩ := level_below enough
    obtain ⟨behind', head', moved', within⟩ := onward.past continues head moved
    obtain ⟨closing', ending, inner'⟩ := ih below behind' inside within
    obtain ⟨rest', closed', later⟩ := onward.expect ending closed
    exact ⟨rest', later, .parens _ _ _ _ _ _ head' moved' inner' closed'⟩
  | ends levels least p tokens bracket looser =>
    intro levels' tokens' enough continues
    have head := onward.head_iff .leftBracket (by decide) continues
    refine ⟨tokens', continues, .ends _ _ _ _ (fun opens => bracket (head.mp opens)) ?_⟩
    rw [onward.agrees (fun head => head.bind Infix.ofToken?) rfl continues]
    exact looser
  | segment levels least left tokens behind segment later p rest head tight moved body more ihBody ihMore =>
    intro levels' tokens' enough continues
    obtain ⟨below, rfl, inside⟩ := level_below enough
    obtain ⟨behind', head', moved', within⟩ := onward.past continues head moved
    obtain ⟨later', between, body'⟩ := ihBody below behind' inside within
    obtain ⟨rest', ending, more'⟩ := ihMore (below + 1) later' enough between
    exact ⟨rest', ending, .segment _ _ _ _ _ _ _ _ _ head' tight moved' body' more'⟩
  | binary levels least left tokens operator behind right later p rest sign tight moved operand more ihOperand
      ihMore =>
    intro levels' tokens' enough continues
    obtain ⟨behind', sign', moved', within⟩ := onward.found Infix.ofToken? rfl continues sign moved
    obtain ⟨later', between, operand'⟩ := ihOperand levels' behind' enough within
    obtain ⟨rest', ending, more'⟩ := ihMore levels' later' enough between
    exact ⟨rest', ending, .binary _ _ _ _ _ _ _ _ _ _ sign' tight moved' operand' more'⟩
  | path levels least tokens left behind p rest first more ihFirst ihMore =>
    intro levels' tokens' enough continues
    obtain ⟨behind', between, first'⟩ := ihFirst levels' tokens' enough continues
    obtain ⟨rest', ending, more'⟩ := ihMore levels' behind' enough between
    exact ⟨rest', ending, .path _ _ _ _ _ _ _ first' more'⟩
  | number levels tokens n rest extended head moved =>
    intro levels' tokens' enough continues
    obtain ⟨rest', head', moved', later⟩ := onward.past continues head moved
    exact ⟨rest', later, .number _ _ _ _ (onward.extended.trans extended) head' moved'⟩
  | real levels tokens x rest head moved =>
    intro levels' tokens' enough continues
    obtain ⟨rest', head', moved', later⟩ := onward.past continues head moved
    exact ⟨rest', later, .real _ _ _ _ head' moved'⟩
  | operand levels tokens p rest path ih =>
    intro levels' tokens' enough continues
    obtain ⟨rest', later, path'⟩ := ih levels' tokens' enough continues
    exact ⟨rest', later, .operand _ _ _ _ path'⟩
  | alone levels tokens o rest operand sign ih =>
    intro levels' tokens' enough continues
    obtain ⟨rest', later, operand'⟩ := ih levels' tokens' enough continues
    exact ⟨rest', later, .alone _ _ _ _ operand' ((onward.arithmeticOperator later).trans sign)⟩
  | arithmetic levels tokens left behind operator later right rest operand sign moved inner ihOperand ihInner =>
    intro levels' tokens' enough continues
    obtain ⟨behind', between, operand'⟩ := ihOperand levels' tokens' enough continues
    obtain ⟨below, rfl, inside⟩ := level_below enough
    obtain ⟨later', _, moved', within⟩ := onward.past between (arithmeticOperator?_exact.mp sign).2 moved
    obtain ⟨rest', ending, inner'⟩ := ihInner below later' inside within
    exact ⟨rest', ending, .arithmetic _ _ _ _ _ _ _ _ operand' ((onward.arithmeticOperator between).trans sign)
      moved' inner'⟩
  | expression levels tokens p rest inner ih =>
    intro levels' tokens' enough continues
    obtain ⟨rest', later, inner'⟩ := ih levels' tokens' enough continues
    exact ⟨rest', later, .expression _ _ _ _ inner'⟩
  | present levels tokens p rest target sign ih =>
    intro levels' tokens' enough continues
    obtain ⟨rest', later, target'⟩ := ih levels' tokens' enough continues
    exact ⟨rest', later, .present _ _ _ _ target'
      ((onward.agrees (fun head => head.bind compareOperator?) rfl later).trans sign)⟩
  | compare levels tokens p behind operator later l rest target sign moved compared ih =>
    intro levels' tokens' enough continues
    obtain ⟨behind', between, target'⟩ := ih levels' tokens' enough continues
    obtain ⟨later', sign', moved', within⟩ := onward.found compareOperator? rfl between sign moved
    obtain ⟨rest', compared', ending⟩ := onward.literal within compared
    exact ⟨rest', ending, .compare _ _ _ _ _ _ _ _ target' sign' moved' compared'⟩
  | bare levels tokens c rest apart single ih =>
    intro levels' tokens' enough continues
    obtain ⟨rest', later, single'⟩ := ih levels' tokens' enough continues
    have head := onward.head_iff .leftParen (by decide) continues
    exact ⟨rest', later, .bare _ _ _ _ (fun opens => apart (head.mp opens)) single'⟩
  | enclosed levels tokens behind all closing rest head moved inner closed ih =>
    intro levels' tokens' enough continues
    obtain ⟨below, rfl, inside⟩ := level_below enough
    obtain ⟨behind', head', moved', within⟩ := onward.past continues head moved
    obtain ⟨closing', ending, inner'⟩ := ih below behind' inside within
    obtain ⟨rest', closed', later⟩ := onward.expect ending closed
    exact ⟨rest', later, .enclosed _ _ _ _ _ _ head' moved' inner' closed'⟩
  | noMore levels all tokens apart =>
    intro levels' tokens' enough continues
    have head := onward.head_iff .ampersand (by decide) continues
    exact ⟨tokens', continues, .noMore _ _ _ fun sign => apart (head.mp sign)⟩
  | further levels before tokens behind group later all rest head moved next more ihNext ihMore =>
    intro levels' tokens' enough continues
    obtain ⟨behind', head', moved', within⟩ := onward.past continues head moved
    obtain ⟨later', between, next'⟩ := ihNext levels' behind' enough within
    obtain ⟨rest', ending, more'⟩ := ihMore levels' later' enough between
    exact ⟨rest', ending, .further _ _ _ _ _ _ _ _ head' moved' next' more'⟩
  | conditions levels tokens group behind all rest first more ihFirst ihMore =>
    intro levels' tokens' enough continues
    obtain ⟨behind', between, first'⟩ := ihFirst levels' tokens' enough continues
    obtain ⟨rest', ending, more'⟩ := ihMore levels' behind' enough between
    exact ⟨rest', ending, .conditions _ _ _ _ _ _ first' more'⟩
  | lastKey levels tokens direction behind p rest mark moved path noComma noMark ih =>
    intro levels' tokens' enough continues
    obtain ⟨behind', mark', moved', within⟩ := onward.marked continues mark moved
    obtain ⟨rest', ending, path'⟩ := ih levels' behind' enough within
    have comma := onward.head_iff .comma (by decide) ending
    exact ⟨rest', ending, .lastKey _ _ _ _ _ _ mark' moved' path' (fun head => noComma (comma.mp head))
      ((onward.direction ending).trans noMark)⟩
  | key levels tokens direction behind p later keys rest mark moved path noComma isMark more ihPath ihMore =>
    intro levels' tokens' enough continues
    obtain ⟨behind', mark', moved', within⟩ := onward.marked continues mark moved
    obtain ⟨later', between, path'⟩ := ihPath levels' behind' enough within
    obtain ⟨rest', ending, more'⟩ := ihMore levels' later' enough between
    have comma := onward.head_iff .comma (by decide) between
    have same : direction? later' = direction? later := onward.direction between
    rw [← same] at isMark
    exact ⟨rest', ending, .key _ _ _ _ _ _ _ _ mark' moved' path' (fun head => noComma (comma.mp head)) isMark
      more'⟩
  | commaKey levels tokens direction behind p comma later keys rest mark moved path isComma again more ihPath
      ihMore =>
    intro levels' tokens' enough continues
    obtain ⟨behind', mark', moved', within⟩ := onward.marked continues mark moved
    obtain ⟨comma', atComma, path'⟩ := ihPath levels' behind' enough within
    obtain ⟨later', isComma', again', between⟩ := onward.past atComma isComma again
    obtain ⟨rest', ending, more'⟩ := ihMore levels' later' enough between
    exact ⟨rest', ending, .commaKey _ _ _ _ _ _ _ _ _ mark' moved' path' isComma' again' more'⟩
  | fullSlice levels tokens rest head moved =>
    intro levels' tokens' enough continues
    obtain ⟨rest', head', moved', later⟩ := onward.past continues head moved
    exact ⟨rest', later, .fullSlice _ _ _ head' moved'⟩
  | place levels tokens p rest read =>
    intro levels' tokens' enough continues
    obtain ⟨rest', read', later⟩ := onward.indexOrSlice continues read
    exact ⟨rest', later, .place _ _ _ _ read'⟩
  | fields levels tokens name behind p rest named moved list =>
    intro levels' tokens' enough continues
    obtain ⟨behind', named', moved', inside⟩ := onward.found Token.fieldName? rfl continues named moved
    obtain ⟨rest', list', later⟩ := onward.fieldList inside list
    exact ⟨rest', later, .fields _ _ _ _ _ _ named' moved' list'⟩
  | filter levels tokens behind all rest head moved read ih =>
    intro levels' tokens' enough continues
    obtain ⟨behind', head', moved', within⟩ := onward.past continues head moved
    obtain ⟨rest', later, read'⟩ := ih levels' behind' enough within
    exact ⟨rest', later, .filter _ _ _ _ _ head' moved' read'⟩
  | sort levels tokens keys rest read ih =>
    intro levels' tokens' enough continues
    obtain ⟨rest', later, read'⟩ := ih levels' tokens' enough continues
    exact ⟨rest', later, .sort _ _ _ _ read'⟩
  | body levels tokens p closing rest content closed ih =>
    intro levels' tokens' enough continues
    obtain ⟨closing', ending, content'⟩ := ih levels' tokens' enough continues
    obtain ⟨rest', closed', later⟩ := onward.expect ending closed
    exact ⟨rest', later, .body _ _ _ _ _ content' closed'⟩

end TreePath.Grammar
