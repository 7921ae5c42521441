import TreePath.Proofs.Path.Atoms
import TreePath.Proofs.Token.Nesting
namespace TreePath
open Grammar

variable {s : Setting} {profile : Profile} {last : Position} {p left right first : Path}
  {others done : List Path} {tokens : List Token} {before behind written : List Lexeme}
  {operator : Infix} {tightness least depth : Nat}

theorem nameToken_neutral {name : String} {level : Nat} :
    (nameToken profile name).levelBehind level = level := by
  have named : (nameToken profile name).fieldName? = some name := fieldName?_nameToken
  generalize nameToken profile name = token at named
  cases token
  all_goals first | rfl | cases named

theorem balanced_fields {names : List String} : Balanced (fieldTokens profile names) := by
  fun_induction fieldTokens profile names with
  | case1 => exact balanced_nil
  | case2 name => exact (balanced_nil.cons fun _ => nameToken_neutral).1
  | case3 name rest more ih => exact ((ih.cons fun _ => rfl).1.cons fun _ => nameToken_neutral).1

theorem balanced_brackets (balanced : Balanced tokens) :
    Balanced (.leftBracket :: (tokens ++ [.rightBracket])) :=
  (balanced.wrap (fun _ => rfl) fun _ => rfl).1

theorem balanced_slice {start stop step : Option Int64} : Balanced (sliceTokens start stop step) := by
  have bound : ∀ bound, Balanced (boundTokens bound) := by
    intro bound
    cases bound with
    | none => exact balanced_nil
    | some n => exact (balanced_nil.cons fun _ => rfl).1
  by_cases bounded : start = none ∧ stop = none ∧ step = none
  · obtain ⟨rfl, rfl, rfl⟩ := bounded
    have star : Balanced [.star] := (balanced_nil.cons fun _ => rfl).1
    exact balanced_brackets star
  · rw [sliceTokens_eq bounded]
    have ending : Balanced (stepTokens step) := by
      cases step with
      | none => exact balanced_nil
      | some n => exact ((bound (some n)).cons fun _ => rfl).1
    exact balanced_brackets ((bound start).append (((bound stop).append ending).cons fun _ => rfl).1)

theorem balanced_bracketed (balanced : Balanced tokens) :
    Balanced (bracketedTokens tightness least tokens) := by
  unfold bracketedTokens
  split
  · exact (balanced.wrap (fun _ => rfl) fun _ => rfl).1
  · exact balanced

theorem balanced_binary {rightTokens : List Token} (operator : Infix) (first : Balanced tokens)
    (second : Balanced rightTokens) :
    Balanced (tokens ++ operator.token :: rightTokens) ∧
      nesting (tokens ++ operator.token :: rightTokens) = max (nesting tokens) (nesting rightTokens) := by
  have neutral : ∀ level, operator.token.levelBehind level = level := by
    cases operator <;> exact fun _ => rfl
  have behind := second.cons neutral
  exact ⟨first.append behind.1, by rw [first.nesting_append, behind.2]⟩

theorem balanced_union (balanced : ∀ p ∈ first :: others, Balanced (p.tokens profile)) :
    Balanced (unionTokens profile (first :: others)) ∧
      ∀ p ∈ first :: others, nesting (bracketedTokens p.tightness 6 (p.tokens profile)) ≤
        nesting (unionTokens profile (first :: others)) := by
  induction others generalizing first with
  | nil =>
    rw [unionTokens]
    refine ⟨balanced_bracketed (balanced first List.mem_cons_self), fun p here => ?_⟩
    cases List.mem_singleton.mp here
    exact Nat.le_refl _
  | cons second others ih =>
    obtain ⟨rest, bounds⟩ := ih fun p here => balanced p (List.mem_cons_of_mem first here)
    have before : Balanced (bracketedTokens first.tightness 6 (first.tokens profile)) :=
      balanced_bracketed (balanced first List.mem_cons_self)
    obtain ⟨all, depth⟩ := balanced_binary .union before rest
    refine ⟨all, fun p here => ?_⟩
    change _ ≤ nesting (_ ++ Infix.union.token :: _)
    rw [depth]
    rcases List.mem_cons.mp here with rfl | here
    · exact Nat.le_max_left _ _
    · exact Nat.le_trans (bounds p here) (Nat.le_max_right _ _)

theorem balanced_tokens (plain : Path.Plain profile p) : Balanced (p.tokens profile) := by
  have single : ∀ token, (∀ level, Token.levelBehind level token = level) → Balanced [token] :=
    fun token neutral => (balanced_nil.cons neutral).1
  induction plain with
  | root => exact single _ fun _ => rfl
  | this => exact single _ fun _ => rfl
  | parent => exact single _ fun _ => rfl
  | wildcard => exact single _ fun _ => rfl
  | fields first others legible => exact balanced_fields
  | index i => exact balanced_brackets (single (.number i) fun _ => rfl)
  | slice start stop step moves => exact balanced_slice
  | child left right isLeft isRight ihLeft ihRight =>
    exact (balanced_binary .child (balanced_bracketed ihLeft) (balanced_bracketed ihRight)).1
  | descendants left right isLeft isRight ihLeft ihRight =>
    exact (balanced_binary .descendants (balanced_bracketed ihLeft)
      (balanced_bracketed ihRight)).1
  | whereSome left right isLeft isRight ihLeft ihRight =>
    exact (balanced_binary .whereSome (balanced_bracketed ihLeft)
      (balanced_bracketed ihRight)).1
  | whereNone left right isLeft isRight ihLeft ihRight =>
    exact (balanced_binary .whereNone (balanced_bracketed ihLeft)
      (balanced_bracketed ihRight)).1
  | union first second others apart plain ih => exact (balanced_union ih).1

-- On every level that leaves the brackets in them room.
def Recovered (s : Setting) (p : Path) : Prop :=
  ∀ depth written, written.map Lexeme.token = p.tokens s.profile →
    nesting (p.tokens s.profile) ≤ depth → Climbs s (level s depth) p.tightness p written

theorem recovered_operand (ended : s.stop = .endOfText last) (plain : Path.Plain s.profile p)
    (recovered : Recovered s p) (possible : least ≤ 9)
    (spelled : written.map Lexeme.token = bracketedTokens p.tightness least (p.tokens s.profile))
    (shallow : nesting (bracketedTokens p.tightness least (p.tokens s.profile)) ≤ depth) :
    ∃ tight, least ≤ tight ∧ Climbs s (level s depth) tight p written := by
  unfold bracketedTokens at spelled shallow
  by_cases loose : p.tightness < least
  · rw [if_pos loose] at spelled shallow
    obtain ⟨opens, inner, closes, rfl, opening, innerSpelled, closing⟩ := spelled_brackets spelled
    rw [((balanced_tokens plain).wrap (fun _ => rfl) fun _ => rfl).2] at shallow
    cases depth with
    | zero => cases shallow
    | succ depth =>
      have inside := recovered depth inner innerSpelled (Nat.le_of_succ_le_succ shallow)
      exact ⟨9, possible, climbs_parens ended opening closing inside⟩
  · rw [if_neg loose] at spelled shallow
    exact ⟨p.tightness, Nat.not_lt.mp loose, recovered depth written spelled shallow⟩

theorem recovered_binary (ended : s.stop = .endOfText last) (operator : Infix)
    (leftPlain : Path.Plain s.profile left) (rightPlain : Path.Plain s.profile right)
    (leftRecovered : Recovered s left) (rightRecovered : Recovered s right)
    (spelled : written.map Lexeme.token =
      bracketedTokens left.tightness operator.tightness (left.tokens s.profile) ++ operator.token ::
        bracketedTokens right.tightness (operator.tightness + 1) (right.tokens s.profile))
    (shallow : nesting
      (bracketedTokens left.tightness operator.tightness (left.tokens s.profile) ++ operator.token ::
        bracketedTokens right.tightness (operator.tightness + 1) (right.tokens s.profile)) ≤ depth) :
    Climbs s (level s depth) operator.tightness (operator.combine left right) written := by
  have bounds := operator.tightness_bounds
  rw [(balanced_binary operator (balanced_bracketed (balanced_tokens leftPlain))
    (balanced_bracketed (balanced_tokens rightPlain))).2] at shallow
  obtain ⟨before, behind, rfl, leftSpelled, restSpelled⟩ := List.map_eq_append_iff.mp spelled
  obtain ⟨sign, behind, rfl, isSign, rightSpelled⟩ := List.map_eq_cons_iff.mp restSpelled
  obtain ⟨tightLeft, atLeft, climbsLeft⟩ := recovered_operand ended leftPlain leftRecovered (by omega)
    leftSpelled (Nat.le_trans (Nat.le_max_left _ _) shallow)
  obtain ⟨tightRight, atRight, climbsRight⟩ := recovered_operand ended rightPlain rightRecovered (by omega)
    rightSpelled (Nat.le_trans (Nat.le_max_right _ _) shallow)
  exact climbs_binary operator ended isSign climbsLeft climbsRight atLeft atRight

theorem unionTokens_cons : unionTokens profile (first :: others) =
    bracketedTokens first.tightness 6 (first.tokens profile) ++
      others.flatMap fun p => .pipe :: bracketedTokens p.tightness 6 (p.tokens profile) := by
  induction others generalizing first with
  | nil => simp [unionTokens]
  | cons second others ih =>
    rw [unionTokens, ih, List.flatMap_cons]
    · rfl
    · intro empty
      cases empty

-- Alternatives are taken up by the union that they follow, one by one.
theorem climbs_alternatives (ended : s.stop = .endOfText last)
    (alternatives : ∀ p ∈ others, ∀ written,
      written.map Lexeme.token = bracketedTokens p.tightness 6 (p.tokens s.profile) →
      ∃ tight, 6 ≤ tight ∧ Climbs s (level s depth) tight p written)
    (climbs : Climbs s (level s depth) 5 (.union done) before)
    (spelled : behind.map Lexeme.token =
      others.flatMap fun p => .pipe :: bracketedTokens p.tightness 6 (p.tokens s.profile)) :
    Climbs s (level s depth) 5 (.union (done ++ others)) (before ++ behind) := by
  induction others generalizing done before behind with
  | nil =>
    cases List.map_eq_nil_iff.mp spelled
    rw [List.append_nil, List.append_nil]
    exact climbs
  | cons p others ih =>
    rw [List.flatMap_cons, List.cons_append] at spelled
    obtain ⟨sign, behind, rfl, isSign, restSpelled⟩ := List.map_eq_cons_iff.mp spelled
    obtain ⟨operand, behind, rfl, operandSpelled, behindSpelled⟩ :=
      List.map_eq_append_iff.mp restSpelled
    obtain ⟨tight, bound, reads⟩ := alternatives p List.mem_cons_self operand operandSpelled
    have joined : Climbs s (level s depth) 5 (.union (done ++ [p])) (before ++ sign :: operand) :=
      climbs_binary .union ended isSign climbs reads (Nat.le_refl _) bound
    have all := ih (fun other here => alternatives other (List.mem_cons_of_mem p here)) joined
      behindSpelled
    simpa using all

theorem recovered_union {second : Path} (ended : s.stop = .endOfText last)
    (apart : ∀ alternatives, first ≠ .union alternatives)
    (plain : ∀ p ∈ first :: second :: others, Path.Plain s.profile p)
    (recovered : ∀ p ∈ first :: second :: others, Recovered s p) :
    Recovered s (.union (first :: second :: others)) := by
  intro depth written spelled shallow
  have balanced : ∀ p ∈ first :: second :: others, Balanced (p.tokens s.profile) :=
    fun p here => balanced_tokens (plain p here)
  have bounds := (balanced_union balanced).2
  have alternatives : ∀ p ∈ first :: second :: others, ∀ written,
      written.map Lexeme.token = bracketedTokens p.tightness 6 (p.tokens s.profile) →
      ∃ tight, 6 ≤ tight ∧ Climbs s (level s depth) tight p written :=
    fun p here written spelled => recovered_operand ended (plain p here) (recovered p here) (by decide)
      spelled (Nat.le_trans (bounds p here) shallow)
  have secondHere : second ∈ first :: second :: others := List.mem_cons_of_mem _ List.mem_cons_self
  change written.map Lexeme.token = unionTokens s.profile (first :: second :: others) at spelled
  rw [unionTokens_cons, List.flatMap_cons, List.cons_append] at spelled
  obtain ⟨before, behind, rfl, firstSpelled, restSpelled⟩ := List.map_eq_append_iff.mp spelled
  obtain ⟨sign, behind, rfl, isSign, restSpelled⟩ := List.map_eq_cons_iff.mp restSpelled
  obtain ⟨operand, behind, rfl, secondSpelled, behindSpelled⟩ := List.map_eq_append_iff.mp restSpelled
  obtain ⟨tight, bound, reads⟩ := alternatives first List.mem_cons_self before firstSpelled
  obtain ⟨tight', bound', reads'⟩ := alternatives second secondHere operand secondSpelled
  have pair : Climbs s (level s depth) 5 (.union [first, second]) (before ++ sign :: operand) := by
    rw [← combine_union apart]
    exact climbs_binary .union ended isSign reads reads' (Nat.le_of_succ_le bound) bound'
  have all := climbs_alternatives ended
    (fun p here => alternatives p (List.mem_cons_of_mem _ (List.mem_cons_of_mem _ here))) pair
    behindSpelled
  change Climbs s (level s depth) 5 _ _
  simpa using all

theorem nesting_bracket : ¬nesting (.leftBracket :: tokens) ≤ 0 := by
  have inside : 1 ≤ deepest 1 tokens := le_deepest
  change ¬max 0 (deepest 1 tokens) ≤ 0
  omega

theorem sliceTokens_opens (start stop step : Option Int64) :
    ∃ tokens, sliceTokens start stop step = .leftBracket :: tokens := by
  unfold sliceTokens
  split
  all_goals exact ⟨_, rfl⟩

-- Every operator takes back the operands that were written for it.
theorem recovered_tokens (ended : s.stop = .endOfText last) (plain : Path.Plain s.profile p) :
    Recovered s p := by
  induction plain with
  | root => exact fun _ _ spelled _ => climbs_mark ended .root spelled
  | this => exact fun _ _ spelled _ => climbs_mark ended .this spelled
  | parent => exact fun _ _ spelled _ => climbs_mark ended .parent spelled
  | wildcard => exact fun _ _ spelled _ => climbs_mark ended .wildcard spelled
  | fields first others legible =>
    exact fun _ _ spelled _ => climbs_fields ended (legible first List.mem_cons_self).1 spelled
  | index i =>
    intro depth written spelled shallow
    cases depth with
    | zero => exact absurd shallow nesting_bracket
    | succ depth => exact climbs_index ended spelled
  | slice start stop step moves =>
    intro depth written spelled shallow
    cases depth with
    | zero =>
      obtain ⟨tokens, opened⟩ := sliceTokens_opens start stop step
      change nesting (sliceTokens start stop step) ≤ 0 at shallow
      rw [opened] at shallow
      exact absurd shallow nesting_bracket
    | succ depth => exact climbs_slice ended moves spelled
  | child left right isLeft isRight ihLeft ihRight =>
    exact fun _ _ => recovered_binary ended .child isLeft isRight ihLeft ihRight
  | descendants left right isLeft isRight ihLeft ihRight =>
    exact fun _ _ => recovered_binary ended .descendants isLeft isRight ihLeft ihRight
  | whereSome left right isLeft isRight ihLeft ihRight =>
    exact fun _ _ => recovered_binary ended .whereSome isLeft isRight ihLeft ihRight
  | whereNone left right isLeft isRight ihLeft ihRight =>
    exact fun _ _ => recovered_binary ended .whereNone isLeft isRight ihLeft ihRight
  | union first second others apart plain ih => exact recovered_union ended apart plain ih

-- The text of a path is read as the path itself, in either grammar, as long as it nests brackets no
-- deeper than the grammar takes them.
theorem Path.ofText_text (profile : Profile) (p : Path) (plain : Path.Plain profile p)
    (shallow : nesting ((TokenStream.ofText profile p.text).lexemes.map Lexeme.token) ≤ maxNesting) :
    Path.ofText profile p.text = .ok p := by
  have read : Reads profile p.text.toList (p.tokens profile) [] := by
    simpa using (readable_text plain).reads [] nofun
  obtain ⟨spelled, last, stopped⟩ := Reads.ofText_iff.mp read
  rw [spelled] at shallow
  unfold Path.ofText
  generalize TokenStream.ofText profile p.text = stream at spelled stopped
  have climbs := recovered_tokens (s := ⟨profile, stream.stop⟩) stopped plain maxNesting stream.lexemes
    spelled shallow
  have alone : arithmeticOperator? ⟨profile, stream.stop⟩ [] = none := by
    unfold arithmeticOperator?
    split <;> rfl
  have whole := expression_read (s := ⟨profile, stream.stop⟩) climbs ends_nil alone
  rw [List.append_nil] at whole
  unfold Grammar.whole
  dsimp only
  rw [demand_ended stopped]
  dsimp only [bind, Except.bind]
  rw [whole]
  rfl

-- A quoted name, a truth value as a name, an operand in brackets, and a union that is itself an operand.
theorem Path.ofText_text_operands :
    let alternatives := [Path.child (.fields ["a b", "c"]) (.index (-1)), .whereSome .this (.fields ["true"])]
    let p := Path.descendants (.union alternatives) (.slice none (some 3) none)
    Path.Plain .extended p ∧
      nesting ((TokenStream.ofText .extended p.text).lexemes.map Lexeme.token) ≤ maxNesting ∧
      Path.ofText .extended p.text = .ok p := by
  intro alternatives p
  have bare : Legible .extended "c" :=
    ⟨by decide, .inr ⟨⟨.identifier "c", .start, ['c']⟩, by decide +kernel, rfl, ⟨1, 2⟩, by decide +kernel⟩⟩
  have truth : Legible .extended "true" := by
    refine ⟨by decide, .inr ⟨⟨.boolean true, .start, "true".toList⟩, ?_, rfl, ⟨1, 5⟩, ?_⟩⟩
    all_goals decide +kernel
  have first : Path.Plain .extended (.child (.fields ["a b", "c"]) (.index (-1))) := by
    refine .child _ _ (.fields _ _ fun name here => ?_) (.index _)
    simp only [List.mem_cons, List.not_mem_nil, or_false] at here
    rcases here with rfl | rfl
    · exact ⟨by decide, .inl (by decide)⟩
    · exact bare
  have second : Path.Plain .extended (.whereSome .this (.fields ["true"])) := by
    refine .whereSome _ _ .this (.fields _ _ fun name here => ?_)
    cases List.mem_singleton.mp here
    exact truth
  have plain : Path.Plain .extended p := by
    refine .descendants _ _ (.union _ _ _ nofun fun q here => ?_) (.slice _ _ _ nofun)
    simp only [List.mem_cons, List.not_mem_nil, or_false] at here
    rcases here with rfl | rfl
    · exact first
    · exact second
  have shallow : nesting ((TokenStream.ofText .extended p.text).lexemes.map Lexeme.token) ≤ maxNesting := by
    decide +kernel
  exact ⟨plain, shallow, Path.ofText_text .extended p plain shallow⟩

end TreePath
