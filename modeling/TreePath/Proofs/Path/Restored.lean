import TreePath.Proofs.Path.ComputedText
namespace TreePath
open Grammar

variable {levels : Nat} {p left right first : Path} {text : String} {tokens : List Token} {others done : List Path}

theorem pathlike_mark {token : Token} (mark : Mark token p) (read : Readable .extended text [token])
    (loose : token ≠ .leftParen) : Pathlike 0 9 text p [token] := by
  refine ⟨read, fun head => absurd (Option.some.inj head) loose, fun settled _ spelled => ?_⟩
  obtain ⟨last, ended⟩ := settled.ended
  exact climbs_mark ended mark spelled

theorem pathlike_fields {first : String} {others : List String} (apart : first ≠ "@")
    (words : ∀ name ∈ first :: others, needsQuotes name = true ∨ IsWord name) :
    Pathlike 0 9 (commaSeparated ((first :: others).map fieldText)) (.fields (first :: others))
      (fieldTokens .extended (first :: others)) := by
  refine ⟨readable_fields fun name here => readBare_of_isWord (words name here), fun head => ?_,
    fun settled _ spelled => ?_⟩
  · have named : (nameToken .extended first).fieldName? = some first := fieldName?_nameToken
    have same : nameToken .extended first = .leftParen := by
      cases others <;> exact Option.some.inj head
    rw [same] at named
    cases named
  · obtain ⟨last, ended⟩ := settled.ended
    rw [← settled.extended] at spelled
    exact climbs_fields ended apart spelled

theorem pathlike_index (i : Int64) :
    Pathlike 1 9 ("[" ++ Integer.text i ++ "]") (.index i) [.leftBracket, .number i, .rightBracket] := by
  refine ⟨readable_brackets fun rest => .integer i (by simp; decide) (by simp), nofun, fun settled deep spelled => ?_⟩
  obtain ⟨last, ended⟩ := settled.ended
  obtain ⟨below, rfl, _⟩ := level_below deep
  exact climbs_index ended spelled

theorem pathlike_slice {start stop step : Option Int64} (moves : step ≠ some 0) :
    Pathlike 1 9 (sliceText start stop step) (.slice start stop step) (sliceTokens start stop step) := by
  refine ⟨readable_slice start stop step, fun head => ?_, fun settled deep spelled => ?_⟩
  · obtain ⟨tokens, same⟩ := sliceTokens_opens start stop step
    rw [same] at head
    cases head
  · obtain ⟨last, ended⟩ := settled.ended
    obtain ⟨below, rfl, _⟩ := level_below deep
    exact climbs_slice ended moves spelled

theorem pathlike_named {operator : NamedOperator} (valid : operator.Valid) (restorable : operator.Restorable) :
    Pathlike 0 9 ("`" ++ operator.text ++ "`") (.named operator) [.namedOperator operator.text] := by
  have found := NamedOperator.read?_text valid restorable
  have verbatim := NamedOperator.text_verbatim restorable
  have apart : operator.text ≠ "this" ∧ operator.text ≠ "parent" := by
    constructor
    all_goals
      intro same
      rw [same] at found
      cases found
  refine ⟨readable_operator operator.text verbatim.1 verbatim.2, nofun, fun settled _ spelled => climbs_atom ?_⟩
  intro rest _
  obtain ⟨last, ended⟩ := settled.ended
  obtain ⟨lexeme, rfl, same⟩ := spelled_single spelled
  refine atom_exact.mpr (.operator operator.text _ rest (congrArg some same) (next_ended ended) ?_)
  unfold operatorPath Setting.isExtended
  rw [if_neg apart.1, if_neg apart.2, settled.extended, if_neg (by decide), found]

-- The alternatives behind the first one.
def alternativesText : List Path → String
  | [] => ""
  | p :: rest => "|" ++ bracketed p.tightness 6 p.text ++ alternativesText rest

theorem unionText_eq : unionText (first :: others) =
    bracketed first.tightness 6 first.text ++ alternativesText others := by
  induction others generalizing first with
  | nil => simp [unionText, alternativesText]
  | cons second others ih =>
    rw [unionText, ih, alternativesText]
    · simp [String.append_assoc]
    · intro none
      cases none

theorem unionLevels_le (here : p ∈ others) : bracketedLevels p.tightness 6 p.levels ≤ unionLevels others := by
  induction others with
  | nil => cases here
  | cons first others ih =>
    rcases List.mem_cons.mp here with rfl | later
    · exact Nat.le_max_left _ _
    · exact Nat.le_trans (ih later) (Nat.le_max_right _ _)

-- Alternatives are taken up by the union that they follow, one by one.
theorem pathlike_alternatives (back : ∀ p ∈ others, p.Back)
    (enough : ∀ p ∈ others, bracketedLevels p.tightness 6 p.levels ≤ levels)
    (before : Pathlike levels 5 text (.union done) tokens) :
    ∃ tokens, Pathlike levels 5 (text ++ alternativesText others) (.union (done ++ others)) tokens := by
  induction others generalizing text done tokens with
  | nil =>
    refine ⟨tokens, ?_⟩
    simpa [alternativesText] using before
  | cons p others ih =>
    obtain ⟨tight, operand, atLeast, pathlike⟩ := (back p List.mem_cons_self).operand 6 (by decide) (by decide)
    have joined := before.binary .union (pathlike.mono (enough p List.mem_cons_self)) (Nat.le_refl 5) atLeast
    rw [Nat.max_self] at joined
    have all := ih (fun q here => back q (List.mem_cons_of_mem p here))
      (fun q here => enough q (List.mem_cons_of_mem p here)) joined
    simpa [alternativesText, Infix.combine, Infix.symbol, String.append_assoc] using all

theorem back_union {second : Path} (apart : ∀ alternatives, first ≠ .union alternatives)
    (back : ∀ p ∈ first :: second :: others, p.Back) : (Path.union (first :: second :: others)).Back := by
  have enough : ∀ p ∈ first :: second :: others, bracketedLevels p.tightness 6 p.levels ≤
      unionLevels (first :: second :: others) := fun p here => unionLevels_le here
  have isSecond : second ∈ first :: second :: others := List.mem_cons_of_mem _ List.mem_cons_self
  obtain ⟨tight, tokens, atLeast, one⟩ := (back first List.mem_cons_self).operand 6 (by decide) (by decide)
  obtain ⟨tight', tokens', atLeast', two⟩ := (back second isSecond).operand 6 (by decide) (by decide)
  have pair := (one.mono (enough first List.mem_cons_self)).binary .union (two.mono (enough second isSecond))
    (Nat.le_of_succ_le atLeast) atLeast'
  rw [Nat.max_self, combine_union apart] at pair
  obtain ⟨all, pathlike⟩ := pathlike_alternatives
    (fun p here => back p (List.mem_cons_of_mem _ (List.mem_cons_of_mem _ here)))
    (fun p here => enough p (List.mem_cons_of_mem _ (List.mem_cons_of_mem _ here))) pair
  have whole : (Path.union (first :: second :: others)).text = bracketed first.tightness 6 first.text ++
      Infix.union.symbol ++ bracketed second.tightness 6 second.text ++ alternativesText others := by
    rw [Path.text, unionText_eq, alternativesText]
    simp [Infix.symbol, String.append_assoc]
  rw [← whole] at pathlike
  exact back_of_pathlike pathlike

def Part.Restorable : Part → Prop
  | path p => p.Restorable
  | condition c => c.Restorable
  | key k => k.Restorable
  | operand o => o.Restorable

def Part.Back : Part → Prop
  | path p => p.Back
  | condition c => c.Back
  | key k => k.Back
  | operand o => o.Back

theorem back_binary (operator : Infix) {whole : Path} (isLeft : left.Back) (isRight : right.Back)
    (combined : operator.combine left right = whole) (tight : whole.tightness = operator.tightness)
    (text : whole.text = bracketed left.tightness operator.tightness left.text ++ operator.symbol ++
      bracketed right.tightness (operator.tightness + 1) right.text)
    (levels : whole.levels = max (bracketedLevels left.tightness operator.tightness left.levels)
      (bracketedLevels right.tightness (operator.tightness + 1) right.levels)) : whole.Back := by
  have bounds := operator.tightness_bounds
  obtain ⟨tightLeft, tokens, atLeft, first⟩ := isLeft.operand operator.tightness (by omega) (by omega)
  obtain ⟨tightRight, more, atRight, second⟩ := isRight.operand (operator.tightness + 1) (by omega) (by omega)
  have pathlike := first.binary operator second atLeft atRight
  rw [combined, ← text, ← levels, ← tight] at pathlike
  exact back_of_pathlike pathlike

theorem Shaped.back {part : Part} (shaped : Shaped part) : part.Restorable → part.Back := by
  induction shaped with
  | root =>
    exact fun _ => back_of_pathlike (pathlike_mark .root ⟨fun rest _ => .mark rfl, ⟨'$', [], rfl, by decide⟩⟩ nofun)
  | this =>
    exact fun _ => back_of_pathlike (pathlike_mark .this (readable_operator "this" (by decide) (by decide)) nofun)
  | parent =>
    exact fun _ => back_of_pathlike (pathlike_mark .parent (readable_operator "parent" (by decide) (by decide)) nofun)
  | wildcard =>
    exact fun _ => back_of_pathlike (pathlike_mark .wildcard ⟨fun rest _ => .mark rfl, ⟨'*', [], rfl, by decide⟩⟩ nofun)
  | fields first others =>
    intro restorable
    exact back_of_pathlike (pathlike_fields (fun same => restorable.1 (congrArg some same)) restorable.2)
  | index i => exact fun _ => back_of_pathlike (pathlike_index i)
  | slice start stop step moves => exact fun _ => back_of_pathlike (pathlike_slice moves)
  | child left right isLeft isRight ihLeft ihRight =>
    exact fun restorable => back_binary .child (ihLeft restorable.1) (ihRight restorable.2) rfl rfl rfl rfl
  | descendants left right isLeft isRight ihLeft ihRight =>
    exact fun restorable => back_binary .descendants (ihLeft restorable.1) (ihRight restorable.2) rfl rfl rfl rfl
  | whereSome left right isLeft isRight ihLeft ihRight =>
    exact fun restorable => back_binary .whereSome (ihLeft restorable.1) (ihRight restorable.2) rfl rfl rfl rfl
  | whereNone left right isLeft isRight ihLeft ihRight =>
    exact fun restorable => back_binary .whereNone (ihLeft restorable.1) (ihRight restorable.2) rfl rfl rfl rfl
  | union first second others apart all ih =>
    exact fun restorable => back_union apart fun p here => ih p here (restorablePaths_iff.mp restorable p here)
  | filter first others all ih =>
    exact fun restorable => back_filter fun c here => ih c here (restorableConditions_iff.mp restorable c here)
  | sort first others all ih =>
    exact fun restorable => back_sort fun k here => ih k here (restorableKeys_iff.mp restorable k here)
  | arithmetic operator left right isLeft isRight ihLeft ihRight =>
    exact fun restorable => back_arithmetic (ihLeft restorable.1) (ihRight restorable.2)
  | named operator valid => exact fun restorable => back_of_pathlike (pathlike_named valid restorable)
  | present target isTarget ih => exact fun restorable => back_present (ih restorable.1) restorable.2
  | compare target operator l isTarget suits ih =>
    exact fun restorable => back_compare (ih restorable.1.1) restorable.1.2 restorable.2 suits
  | key direction p isPath ih => exact fun restorable => back_key (ih restorable)
  | integer n => exact fun _ => back_literal rfl (operative_integer n)
  | real x => exact fun restorable => back_literal rfl (operative_real restorable.1 restorable.2)
  | string s => exact fun restorable => back_literal rfl (operative_string restorable.1 restorable.2)
  | operand p several isPath ih => exact fun restorable => back_path (ih restorable) several

-- The tree of an accepted text, written and read again, is the same tree.
theorem Path.ofText_text_restorable (text : String) (p : Path) (accepted : Path.ofText .extended text = .ok p)
    (restorable : p.Restorable) (shallow : p.levels ≤ maxNesting) : Path.ofText .extended p.text = .ok p := by
  have back : p.Back := (Path.ofText_shaped accepted).back restorable
  obtain ⟨tokens, expressed⟩ := back.expressed
  have read : Reads .extended p.text.toList tokens [] := by
    simpa using expressed.reads [] nofun
  obtain ⟨spelled, last, ended⟩ := Reads.ofText_iff.mp read
  have settled : Settled ⟨.extended, (TokenStream.ofText .extended p.text).stop⟩ := ⟨rfl, last, ended⟩
  have halts : Halts [] := nofun
  have derives := expressed.derives settled shallow spelled halts
  rw [List.append_nil] at derives
  rw [Path.ofText_within]
  exact Path.ofTextWithin_exact.mpr ⟨⟨last, ended⟩, derives⟩

-- Filters, sorting, arithmetic, and round brackets in the tree's text that were not in the text it was read from.
theorem Path.ofText_text_restorable_sorted :
    let kept := Path.child (.descendants (.field "a") (.field "b"))
      (.filter [.compare (.field "x") .lessEqual (.real 7.5), .present (.field "y")])
    let p := Path.arithmetic .multiply (.path (.child kept (.sort [.mk .descending (.field "z")])))
      (.literal (.integer 2))
    Path.ofText .extended "a..b[?x <= 7.5 & y][\\z] * 2" = .ok p ∧ p.Restorable ∧ p.levels ≤ maxNesting ∧
      Path.ofText .extended p.text = .ok p := by
  intro kept p
  have accepted : Path.ofText .extended "a..b[?x <= 7.5 & y][\\z] * 2" = .ok p := rfl
  have letter : ∀ name c, name.toList = [c] → Token.isNameStart c = true → name ≠ "@" →
      (Path.field name).Restorable := by
    intro name c same starts apart
    refine ⟨fun self => apart (Option.some.inj self), fun other single => .inr ⟨c, [], ?_, starts, nofun⟩⟩
    rw [List.mem_singleton.mp single, same]
  have isA := letter "a" 'a' rfl (by decide) (by decide)
  have isB := letter "b" 'b' rfl (by decide) (by decide)
  have isX := letter "x" 'x' rfl (by decide) (by decide)
  have isY := letter "y" 'y' rfl (by decide) (by decide)
  have isZ := letter "z" 'z' rfl (by decide) (by decide)
  have isReal : (Literal.real 7.5).Restorable := by
    unfold Literal.Restorable
    decide +kernel
  have isKept : kept.Restorable := ⟨⟨isA, isB⟩, ⟨⟨isX, by decide⟩, isReal⟩, ⟨isY, by decide⟩, trivial⟩
  have restorable : p.Restorable := ⟨⟨isKept, isZ, trivial⟩, trivial⟩
  have shallow : p.levels ≤ maxNesting := by decide
  exact ⟨accepted, restorable, shallow, Path.ofText_text_restorable _ p accepted restorable shallow⟩

-- A condition's target is written with a bracket at its start, which is read as the start of a group of conditions.
theorem Path.ofText_text_unrestored :
    let p := Path.filter [.present (.child (.descendants (.field "a") (.field "b")) (.index 0))]
    Path.ofText .extended "[?a..b[0]]" = .ok p ∧ Path.ofText .extended p.text ≠ .ok p := by
  intro p
  have text : p.text = "[?(a..b).[0]]" := rfl
  have refused : Path.ofText .extended "[?(a..b).[0]]" = .error (.unexpectedToken .dot .closingBracket ⟨1, 9⟩) := rfl
  refine ⟨rfl, ?_⟩
  rw [text, refused]
  exact nofun

end TreePath
