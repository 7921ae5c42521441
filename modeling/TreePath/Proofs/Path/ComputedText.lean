import TreePath.Proofs.Number.ReadBack
import TreePath.Proofs.Path.Restoring
import TreePath.Proofs.Path.Shape
namespace TreePath
open Grammar

variable {s : Setting} {tightness depth : Nat} {p : Path} {tokens : List Token} {written rest : List Lexeme}

def Literal.token : Literal → Token
  | string s => .identifier s
  | integer n => .number n
  | real x => .real x
  | boolean b => .boolean b
  | pattern p => .identifier p.source

theorem Literal.reads {l : Literal} {rest : List Char} (restorable : l.Restorable) (parted : Parted rest) :
    Reads .extended (l.text.toList ++ rest) [l.token] rest := by
  cases l with
  | string s => exact Reads.json_string restorable
  | integer n => exact Reads.integer n parted.digit parted.point
  | real x =>
    obtain ⟨finite, modest, large⟩ := restorable
    exact Reads.real (FloatText.readsBack_literal finite modest large) parted.digit
  | boolean b => exact Reads.boolean b parted.name
  | pattern p => exact Reads.json_string restorable

theorem literal_token {operator : CompareOperator} {l : Literal} {lexeme : Lexeme} (settled : Settled s)
    (suits : l.isPattern = decide (operator = .matching)) (same : lexeme.token = l.token) :
    literal s operator (lexeme :: rest) = .ok (l, rest) := by
  obtain ⟨last, ended⟩ := settled.ended
  have head : (head? (lexeme :: rest)).bind plainLiteral? = plainLiteral? l.token := by
    rw [← same]
    rfl
  cases l with
  | pattern p =>
    obtain rfl : operator = .matching := of_decide_eq_true suits.symm
    refine literal_exact.mpr ⟨.string p.source, head, next_ended ended, ?_⟩
    unfold literalFor
    dsimp only
    rw [Pattern.ofSource_source]
  | _ =>
    have apart : operator ≠ .matching := fun matching => by simp [Literal.isPattern, matching] at suits
    refine literal_exact.mpr ⟨_, head, next_ended ended, ?_⟩
    cases operator <;> first | rfl | exact absurd rfl apart

-- The text of a condition is read as the condition, before an ampersand or a closing bracket.
def Condition.Back (c : Condition) : Prop := ∃ tokens,
  (∀ rest, Parted rest → Reads .extended (c.text.toList ++ rest) tokens rest) ∧
    ∀ {s depth written rest}, Settled s → c.levels ≤ depth → written.map Lexeme.token = tokens → Halts rest →
      (head? rest).bind compareOperator? = none → Derives s (.group depth (written ++ rest) [c] rest)

theorem compareOperator?_token (operator : CompareOperator) : compareOperator? operator.token = some operator := by
  cases operator <;> rfl

theorem halts_comparison (operator : CompareOperator) : operator.token.halts = true := by
  cases operator <;> rfl

theorem back_present (target : p.Back) (bare : p.text.toList.head? ≠ some '(') : (Condition.present p).Back := by
  obtain ⟨tokens, expressed⟩ := target.expressed
  refine ⟨tokens, expressed.reads, fun settled deep spelled halts noSign => ?_⟩
  exact .bare _ _ _ _ (expressed.apart bare spelled halts)
    (.present _ _ _ _ (expressed.derives settled deep spelled halts) noSign)

theorem back_compare {operator : CompareOperator} {l : Literal} (target : p.Back)
    (bare : p.text.toList.head? ≠ some '(') (restorable : l.Restorable)
    (suits : l.isPattern = decide (operator = .matching)) : (Condition.compare p operator l).Back := by
  obtain ⟨tokens, expressed⟩ := target.expressed
  refine ⟨tokens ++ [operator.token, l.token], fun rest parted => ?_,
    fun {s depth written rest} settled deep spelled _ _ => ?_⟩
  · have before := expressed.reads (' ' :: (operator.symbol.toList ++ ' ' :: (l.text.toList ++ rest)))
      (parted_mark (by decide) (by decide))
    simpa [Condition.text] using before.append ((Reads.comparison operator).cons (Literal.reads restorable parted))
  · obtain ⟨last, ended⟩ := settled.ended
    obtain ⟨before, behind, rfl, isTarget, others⟩ := List.map_eq_append_iff.mp spelled
    obtain ⟨sign, behind, rfl, isSign, others⟩ := List.map_eq_cons_iff.mp others
    obtain ⟨compared, rfl, isLiteral⟩ := spelled_single others
    have halts : Halts (sign :: compared :: rest) := halts_token (isSign ▸ halts_comparison operator)
    have found : compareOperator? sign.token = some operator := isSign ▸ compareOperator?_token operator
    have target := expressed.derives settled deep isTarget halts
    rw [List.append_assoc]
    exact .bare _ _ _ _ (expressed.apart bare isTarget halts)
      (.compare _ _ _ _ _ _ _ _ target found (next_ended ended) (literal_token settled suits isLiteral))

-- The conditions behind the first one are read one by one, whatever stands before it.
theorem conditions_back {first : Condition} {others : List Condition} (back : ∀ c ∈ first :: others, c.Back) :
    ∃ tokens, (∀ rest, Parted rest →
        Reads .extended ((conditionsText (first :: others)).toList ++ rest) tokens rest) ∧
      ∀ {s depth written closes rest}, Settled s → conditionsLevels (first :: others) ≤ depth →
        written.map Lexeme.token = tokens → closes.token = .rightBracket →
        ∃ behind, Derives s (.group depth (written ++ closes :: rest) [first] behind) ∧ ∀ before,
          Derives s (.more depth (before ++ [first]) behind (before ++ first :: others) (closes :: rest)) := by
  induction others generalizing first with
  | nil =>
    obtain ⟨tokens, reads, derives⟩ := back first List.mem_cons_self
    refine ⟨tokens, reads, fun {s depth written closes rest} settled deep spelled closing => ⟨closes :: rest, ?_, ?_⟩⟩
    · have enough := Nat.le_trans (Nat.le_max_left _ _) deep
      refine derives settled enough spelled (halts_token (by rw [closing]; rfl)) ?_
      exact congrArg compareOperator? closing
    · exact fun before => .noMore _ _ _ fun here => by
        cases closing.symm.trans (Option.some.inj here)
  | cons second others ih =>
    obtain ⟨tokens, reads, derives⟩ := back first List.mem_cons_self
    obtain ⟨more, readsMore, derivesMore⟩ := ih fun c here => back c (List.mem_cons_of_mem first here)
    refine ⟨tokens ++ .ampersand :: more, fun rest parted => ?_,
      fun {s depth written closes rest} settled deep spelled closing => ?_⟩
    · have before := reads (' ' :: '&' :: ' ' :: ((conditionsText (second :: others)).toList ++ rest))
        (parted_mark (by decide) (by decide))
      simpa [conditionsText] using before.append (Reads.ampersand.cons (readsMore rest parted))
    · obtain ⟨last, ended⟩ := settled.ended
      obtain ⟨before, behind, rfl, isFirst, along⟩ := List.map_eq_append_iff.mp spelled
      obtain ⟨sign, behind, rfl, isSign, isMore⟩ := List.map_eq_cons_iff.mp along
      obtain ⟨later, group, further⟩ := derivesMore settled (Nat.le_trans (Nat.le_max_right _ _) deep) isMore closing
      refine ⟨sign :: (behind ++ closes :: rest), ?_, fun done => ?_⟩
      · rw [List.append_assoc, List.cons_append]
        refine derives settled (Nat.le_trans (Nat.le_max_left _ _) deep) isFirst (halts_token (by rw [isSign]; rfl)) ?_
        exact congrArg compareOperator? isSign
      · have all := further (done ++ [first])
        rw [List.append_assoc done [first] (second :: others)] at all
        exact .further _ _ _ _ _ _ _ _ (congrArg some isSign) (next_ended ended) group all

theorem back_filter {first : Condition} {others : List Condition} (back : ∀ c ∈ first :: others, c.Back) :
    (Path.filter (first :: others)).Back := by
  obtain ⟨tokens, reads, derives⟩ := conditions_back back
  have text : (Path.filter (first :: others)).text = "[" ++ ("?" ++ conditionsText (first :: others)) ++ "]" := by
    rw [Path.text, ← String.append_assoc]
    rfl
  refine @back_of_pathlike _ (.leftBracket :: (.question :: tokens ++ [.rightBracket])) ⟨?_, ?_, ?_⟩
  · rw [text]
    refine readable_brackets fun rest => ?_
    simpa using Reads.question.cons (reads (']' :: rest) (parted_mark (by decide) (by decide)))
  · intro opens
    cases opens
  · intro s depth written settled deep spelled
    obtain ⟨last, ended⟩ := settled.ended
    obtain ⟨opens, inner, closes, rfl, opening, innerSpelled, closing⟩ := spelled_brackets spelled
    obtain ⟨mark, behind, rfl, isMark, isInner⟩ := List.map_eq_cons_iff.mp innerSpelled
    obtain ⟨below, rfl, enough⟩ := level_below deep
    refine climbs_brackets ended opening closing fun rest => ?_
    obtain ⟨later, group, more⟩ := @derives s below behind closes rest settled enough isInner closing
    exact Derives.read (.filter _ (mark :: (behind ++ closes :: rest)) _ _ _ (congrArg some isMark) (next_ended ended)
      (.conditions _ _ _ _ _ _ group (more [])))

theorem climbs_derived (climbs : Climbs s (level s depth) tightness p written) (ends : Ends 0 rest) :
    Derives s (.path depth 0 (written ++ rest) p rest) :=
  derives_path (level_derived depth) (by decide) (path_read climbs ends)

-- The text of a key is read as its mark and its path, before anything that ends a path.
def SortKey.Back : SortKey → Prop
  | .mk direction p => ∃ tokens,
    (∀ rest, Parted rest →
      Reads .extended ((SortKey.mk direction p).text.toList ++ rest) (direction.token :: tokens) rest) ∧
    ∀ {s depth written rest}, Settled s → (SortKey.mk direction p).levels ≤ depth →
      written.map Lexeme.token = direction.token :: tokens → Ends 0 rest →
      ∃ behind, direction? (written ++ rest) = some direction ∧ s.next (written ++ rest) = .ok behind ∧
        Derives s (.path depth 0 behind p rest)

theorem back_key {direction : Direction} (back : p.Back) : (SortKey.mk direction p).Back := by
  obtain ⟨tight, tokens, _, pathlike⟩ := back.operand 2 (by decide) (by decide)
  refine ⟨tokens, fun rest parted => ?_, fun settled deep spelled ends => ?_⟩
  · simpa [SortKey.text] using (Reads.direction direction).cons (pathlike.readable.reads rest parted.name)
  · obtain ⟨last, ended⟩ := settled.ended
    obtain ⟨mark, behind, rfl, isMark, isPath⟩ := List.map_eq_cons_iff.mp spelled
    exact ⟨_, direction?_exact.mpr (congrArg some isMark), next_ended ended,
      climbs_derived (pathlike.climbs settled deep isPath) ends⟩

-- Keys start with a mark, so the comma before one goes on with no list of names.
theorem keys_back {first : SortKey} {others : List SortKey} (back : ∀ k ∈ first :: others, k.Back) :
    ∃ (direction : Direction) (tokens : List Token), (∀ rest, Parted rest →
        Reads .extended ((keysText (first :: others)).toList ++ rest) (direction.token :: tokens) rest) ∧
      ∀ {s depth written closes rest}, Settled s → keysLevels (first :: others) ≤ depth →
        written.map Lexeme.token = direction.token :: tokens → closes.token = .rightBracket →
        Derives s (.keys depth (written ++ closes :: rest) (first :: others) (closes :: rest)) := by
  induction others generalizing first with
  | nil =>
    obtain ⟨direction, p⟩ := first
    obtain ⟨tokens, reads, derives⟩ := back (.mk direction p) List.mem_cons_self
    refine ⟨direction, tokens, reads, fun {s depth written closes rest} settled deep spelled closing => ?_⟩
    have head : head? (closes :: rest) = some .rightBracket := congrArg some closing
    have ends : Ends 0 (closes :: rest) := ends_token head nofun nofun nofun
    obtain ⟨behind, mark, moved, path⟩ := derives settled (Nat.le_trans (Nat.le_max_left _ _) deep) spelled ends
    refine .lastKey _ _ _ _ _ _ mark moved path ?_ ?_
    · rw [head]
      decide
    · unfold direction?
      rw [head]
  | cons second others ih =>
    obtain ⟨direction, p⟩ := first
    obtain ⟨tokens, reads, derives⟩ := back (.mk direction p) List.mem_cons_self
    obtain ⟨next, more, readsMore, derivesMore⟩ := ih fun k here => back k (List.mem_cons_of_mem _ here)
    refine ⟨direction, tokens ++ .comma :: next.token :: more, fun rest parted => ?_,
      fun {s depth written closes rest} settled deep spelled closing => ?_⟩
    · have before := reads (',' :: ((keysText (second :: others)).toList ++ rest))
        (parted_mark (by decide) (by decide))
      have comma : ∀ chars, Reads .extended (',' :: chars) [.comma] chars := fun _ => .mark rfl
      simpa [keysText] using before.append ((comma _).cons (readsMore rest parted))
    · obtain ⟨last, ended⟩ := settled.ended
      rw [← List.cons_append] at spelled
      obtain ⟨front, along, rfl, isFirst, isAlong⟩ := List.map_eq_append_iff.mp spelled
      obtain ⟨comma, later, rfl, isComma, isMore⟩ := List.map_eq_cons_iff.mp isAlong
      have head : head? (comma :: (later ++ closes :: rest)) = some .comma := congrArg some isComma
      have unnamed : (head? (later ++ closes :: rest)).bind Token.fieldName? = none := by
        rw [head?_append, isMore]
        cases next <;> rfl
      have ends : Ends 0 (comma :: (later ++ closes :: rest)) := by
        refine ⟨fun _ => unnamed, ?_, ?_⟩
        all_goals
          rw [head]
          exact nofun
      obtain ⟨behind, mark, moved, path⟩ := derives settled (Nat.le_trans (Nat.le_max_left _ _) deep) isFirst ends
      rw [List.append_assoc]
      exact .commaKey _ _ _ _ _ _ _ _ _ mark moved path head (next_ended ended)
        (derivesMore settled (Nat.le_trans (Nat.le_max_right _ _) deep) isMore closing)

theorem back_sort {first : SortKey} {others : List SortKey} (back : ∀ k ∈ first :: others, k.Back) :
    (Path.sort (first :: others)).Back := by
  obtain ⟨direction, tokens, reads, derives⟩ := keys_back back
  refine @back_of_pathlike _ (.leftBracket :: (direction.token :: tokens ++ [.rightBracket])) ⟨?_, nofun, ?_⟩
  · exact readable_brackets fun rest => reads (']' :: rest) (parted_mark (by decide) (by decide))
  · intro s depth written settled deep spelled
    obtain ⟨last, ended⟩ := settled.ended
    obtain ⟨opens, inner, closes, rfl, opening, isInner, closing⟩ := spelled_brackets spelled
    obtain ⟨below, rfl, enough⟩ := level_below deep
    refine climbs_brackets ended opening closing fun rest => ?_
    exact Derives.read (.sort _ _ _ _ (derives settled enough isInner closing))

-- A text that is read as these tokens, and they as an operand on the left side of arithmetic.
structure Operative (levels : Nat) (text : String) (o : Operand) (tokens : List Token) : Prop where
  reads : ∀ rest, Parted rest → Reads .extended (text.toList ++ rest) tokens rest
  opening : tokens.head? = some .leftParen → text.toList.head? = some '('
  derives : ∀ {s depth written rest}, Settled s → levels ≤ depth → written.map Lexeme.token = tokens → Ends 0 rest →
    Derives s (.operand depth (written ++ rest) o rest)

-- The text of an operand is read, on either side, as something that the operator takes for the operand.
structure Operand.Back (o : Operand) : Prop where
  left : ∃ read tokens, read.literalized = o ∧ Operative (o.levels 2) (o.text 2) read tokens
  right : ∃ read tokens, read.literalized = o ∧
    (∀ rest, Parted rest → Reads .extended ((o.text 1).toList ++ rest) tokens rest) ∧
    ∀ {s depth written rest}, Settled s → o.levels 1 ≤ depth → written.map Lexeme.token = tokens → Halts rest →
      Derives s (.arithmetic depth (written ++ rest) read rest)

theorem operative_integer (n : Int64) : Operative 0 (Integer.text n) (.literal (.integer n)) [.number n] := by
  refine ⟨fun rest parted => .integer n parted.digit parted.point, nofun, fun settled _ spelled _ => ?_⟩
  obtain ⟨last, ended⟩ := settled.ended
  obtain ⟨lexeme, rfl, same⟩ := spelled_single spelled
  exact .number _ _ n _ settled.isExtended (congrArg some same) (next_ended ended)

theorem operative_real {x : Float} (finite : x.isFinite = true)
    (modest : FloatText.isWhole x = true → FloatText.isModest x = true) :
    Operative 0 (FloatText.json x) (.literal (.float x)) [.real x] := by
  have back := FloatText.readsBack_json finite modest
  refine ⟨fun rest parted => .real back parted.digit, nofun, fun settled _ spelled _ => ?_⟩
  obtain ⟨last, ended⟩ := settled.ended
  obtain ⟨lexeme, rfl, same⟩ := spelled_single spelled
  exact .real _ _ x _ (congrArg some same) (next_ended ended)

-- A text is read as the path that is just this name.
theorem operative_string {name : String} (visible : Visible name) (apart : name ≠ "@") :
    Operative 0 (Value.quote name) (.path (.field name)) [.identifier name] := by
  refine ⟨fun rest _ => .json_string visible, nofun, fun settled _ spelled ends => ?_⟩
  obtain ⟨last, ended⟩ := settled.ended
  obtain ⟨lexeme, rfl, same⟩ := spelled_single spelled
  exact .operand _ _ _ _ (climbs_derived (climbs_name ended apart same) ends)

theorem back_literal {value : Value} {read : Operand} (same : read.literalized = .literal value)
    (operative : Operative 0 value.json read tokens) : (Operand.literal value).Back :=
  ⟨⟨read, tokens, same, operative⟩, ⟨read, tokens, same, operative.reads, fun settled deep spelled halts =>
    .alone _ _ _ _ (operative.derives settled deep spelled halts.ends) halts.alone⟩⟩

theorem back_path (back : p.Back) (several : ∀ name, p ≠ .field name) : (Operand.path p).Back := by
  have same := literalized_path several
  constructor
  · obtain ⟨tight, tokens, _, pathlike⟩ := back.operand 2 (by decide) (by decide)
    refine ⟨.path p, tokens, same, fun rest parted => pathlike.readable.reads rest parted.name, pathlike.opening,
      fun settled deep spelled ends => ?_⟩
    exact .operand _ _ _ _ (climbs_derived (pathlike.climbs settled deep spelled) ends)
  · obtain ⟨tokens, expressed⟩ := back.expressed
    have bare : ¬p.tightness < 1 := by cases p <;> simp [Path.tightness]
    refine ⟨.path p, tokens, same, ?_, ?_⟩
    · unfold Operand.text bracketed
      rw [if_neg bare]
      exact expressed.reads
    · unfold Operand.levels bracketedLevels
      rw [if_neg bare]
      intro s depth written rest settled deep spelled halts
      cases expressed.derives settled deep spelled halts with
      | expression _ _ _ _ inner => exact inner

theorem ends_arithmetic {operator : ArithmeticOperator} {lexeme : Lexeme} (same : lexeme.token = operator.token) :
    Ends 0 (lexeme :: rest) := by
  have head : head? (lexeme :: rest) = some operator.token := congrArg some same
  exact ends_token head (by cases operator <;> nofun) (by cases operator <;> nofun) (by cases operator <;> nofun)

theorem back_arithmetic {operator : ArithmeticOperator} {before behind : Operand} (isLeft : before.Back)
    (isRight : behind.Back) : (Path.arithmetic operator before behind).Back := by
  obtain ⟨read, tokens, rfl, operative⟩ := isLeft.left
  obtain ⟨later, more, rfl, readsMore, derivesMore⟩ := isRight.right
  refine ⟨⟨tokens ++ operator.token :: more, fun rest parted => ?_, ?_, ?_⟩,
    fun tight => absurd tight (Nat.not_succ_le_self 1)⟩
  · have front := operative.reads
      (' ' :: (operator.symbol.toList ++ ' ' :: ((later.literalized.text 1).toList ++ rest)))
      (parted_mark (by decide) (by decide))
    simpa [Path.text] using front.append ((Reads.arithmetic operator).cons (readsMore rest parted))
  · rw [Path.text, String.append_assoc, String.append_assoc, String.append_assoc]
    exact opening_append operative.opening (by cases operator <;> decide)
  · intro s depth written rest settled deep spelled halts
    obtain ⟨last, ended⟩ := settled.ended
    obtain ⟨front, along, rfl, isFront, alongSpelled⟩ := List.map_eq_append_iff.mp spelled
    obtain ⟨sign, along, rfl, isSign, isMore⟩ := List.map_eq_cons_iff.mp alongSpelled
    obtain ⟨below, rfl, enough⟩ := level_below (Nat.le_trans (Nat.le_max_right _ _) deep)
    rw [List.append_assoc]
    exact .expression _ _ _ _ (.arithmetic _ _ _ _ _ _ _ _
      (operative.derives settled (Nat.le_trans (Nat.le_max_left _ _) deep) isFront (ends_arithmetic isSign))
      (arithmeticOperator?_exact.mpr ⟨settled.isExtended, congrArg some isSign⟩) (next_ended ended)
      (derivesMore settled enough isMore halts))

end TreePath
