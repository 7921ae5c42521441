import Mathlib.Data.List.Forall2
import TreePath.Proofs.Path.Advance
import TreePath.Proofs.Path.RoundTrip
namespace TreePath
open Grammar

-- The segments that lead to a part of a tree.
inductive Path.IsSegment : Path → Prop where
  | field (name : String) : IsSegment (.field name)
  | index (i : Int64) : IsSegment (.index i)

-- What is read as one bare name.
def IsWord (name : String) : Prop :=
  ∃ c word, name.toList = c :: word ∧ Token.isNameStart c = true ∧ ∀ d ∈ word, Token.isNamePart d = true

-- A name that is read as such again. The at sign, though it is read as a name, stands for the current
-- value.
def Recoverable (name : String) : Prop :=
  name ≠ "@" ∧ (needsQuotes name = true ∨ IsWord name)

-- What the text of a segment is read as, if it is read as a path at all.
inductive ReadAs : Path → Path → Prop where
  | same {segment : Path} (recoverable : ∀ name, segment = .field name → Recoverable name) : ReadAs segment segment
  | self : ReadAs (.field "@") .this

variable {s : Setting} {last : Position} {below : Level} {depth tightness : Nat} {name : String} {c : Char}
  {p q segment first : Path} {segments others backs : List Path} {rest : List Char} {tokens : List Token}
  {written behind remaining : List Lexeme}

theorem isNamePart_of_isDigit (digit : CharClass.isDigit c = true) : Token.isNamePart c = true := by
  have bounds := CharClass.toNat_of_isDigit digit
  have small : c.toNat < 128 := by omega
  rw [CharClass.isDigit_eq] at digit
  simp [Token.isNamePart, CharClass.isLetterOrNumber, small, Char.isAlphanum, digit]

theorem isLetterOrNumber_of_isLetter (letter : CharClass.isLetter c = true) :
    CharClass.isLetterOrNumber c = true := by
  unfold CharClass.isLetter at letter
  unfold CharClass.isLetterOrNumber
  split at letter
  · rename_i small
    rw [if_pos small]
    simp [Char.isAlphanum, letter]
  · rename_i large
    rw [if_neg large, letter]
    rfl

theorem isNamePart_of_isNameStart (starts : Token.isNameStart c = true) : Token.isNamePart c = true := by
  simp only [Token.isNameStart, Bool.or_eq_true] at starts
  rcases starts with (letter | underscore) | atSign
  · simp [Token.isNamePart, isLetterOrNumber_of_isLetter letter]
  · simp [Token.isNamePart, underscore]
  · simp [Token.isNamePart, atSign]

theorem readBare_of_isWord (word : needsQuotes name = true ∨ IsWord name) :
    needsQuotes name = true ∨ ReadBare .extended name := by
  cases bare : needsQuotes name with
  | true => exact .inl rfl
  | false =>
    have isWord : IsWord name := by simpa [bare] using word
    obtain ⟨c, word, spelled, starts, inside⟩ := isWord
    have solid := (solid_of_bare bare c (spelled ▸ List.mem_cons_self)).1
    have read : Reads .extended name.toList [nameToken .extended name] [] := by
      have whole : Reads .extended (c :: (word ++ [])) [Token.ofWord .extended (c :: word)] [] :=
        .name solid starts inside nofun
      rw [nameToken, bare, spelled]
      simpa using whole
    obtain ⟨tokens, last, stopped⟩ := Reads.ofText_iff.mp read
    obtain ⟨lexeme, single, isName⟩ := spelled_single tokens
    exact .inr ⟨lexeme, single, by rw [isName, fieldName?_nameToken]; rfl, last, stopped⟩

theorem legible_of_recoverable (recoverable : Recoverable name) : Legible .extended name :=
  ⟨recoverable.1, readBare_of_isWord recoverable.2⟩

theorem bare_parts (bare : needsQuotes name = false) : ∃ c word, name.toList = c :: word ∧
    ∀ d ∈ c :: word, CharClass.isBlank d = false ∧ d ∉ reservedMarks := by
  have solid := solid_of_bare bare
  cases spelled : name.toList with
  | nil =>
    cases String.toList_inj.mp (spelled.trans String.toList_empty.symm)
    cases bare
  | cons c word => exact ⟨c, word, rfl, spelled ▸ solid⟩

-- A character that is neither blank nor reserved, at the start of a text that is read.
theorem reads_bare {text : List Char} (visible : CharClass.isBlank c = false) (bare : c ∉ reservedMarks)
    (read : Reads .extended (c :: text) tokens []) : Token.isNamePart c = true ∧
      ((∃ token more, tokens = token :: more ∧ token.isNumber = true) ∨ Token.isNameStart c = true ∧
        ∃ more, Reads .extended (text.dropWhile Token.isNamePart) more []) := by
  cases read with
  | blank _ _ _ _ isBlank =>
    rw [visible] at isBlank
    cases isBlank
  | token _ _ scanned more _ _ found later =>
    rcases scan_bare bare found with ⟨starts, behind⟩ | ⟨rfl | digit, number⟩
    · exact ⟨isNamePart_of_isNameStart starts, .inr ⟨starts, more, behind ▸ later⟩⟩
    · exact ⟨by decide, .inl ⟨_, _, rfl, number⟩⟩
    · exact ⟨isNamePart_of_isDigit digit, .inl ⟨_, _, rfl, number⟩⟩

-- A bare name that is no word starts with a number, or holds a character with which no token starts.
theorem number_of_noWord (bare : needsQuotes name = false) (noWord : ¬IsWord name)
    (read : Reads .extended (name.toList ++ rest) tokens []) :
    ∃ token more, tokens = token :: more ∧ token.isNumber = true := by
  obtain ⟨c, word, spelled, solid⟩ := bare_parts bare
  rw [spelled, List.cons_append] at read
  obtain ⟨visible, unreserved⟩ := solid c List.mem_cons_self
  obtain ⟨_, number | ⟨starts, more, later⟩⟩ := reads_bare visible unreserved read
  · exact number
  · have left : word.dropWhile Token.isNamePart ≠ [] := by
      intro all
      exact noWord ⟨c, word, spelled, starts, List.dropWhile_eq_nil_iff.mp all⟩
    have outside := List.head_dropWhile_not (p := Token.isNamePart) left
    rw [List.dropWhile_append] at later
    generalize ending : word.dropWhile Token.isNamePart = dropped at left outside later
    cases dropped with
    | nil => exact absurd rfl left
    | cons d others =>
      have listed : d ∈ word := (List.dropWhile_sublist Token.isNamePart).mem (ending ▸ List.mem_cons_self)
      obtain ⟨visible, unreserved⟩ := solid d (List.mem_cons_of_mem c listed)
      rw [List.head_cons, (reads_bare visible unreserved later).1] at outside
      cases outside

theorem climbs_self (ended : s.stop = .endOfText last) (extended : s.profile = .extended)
    (spelled : written.map Lexeme.token = [.identifier "@"]) : Climbs s below 9 .this written := by
  refine climbs_atom fun rest _ => ?_
  obtain ⟨lexeme, rfl, same⟩ := spelled_single spelled
  have named : (head? ([lexeme] ++ rest)).bind Token.fieldName? = some "@" := by
    have head : head? ([lexeme] ++ rest) = some (.identifier "@") := congrArg some same
    rw [head]
    rfl
  exact atom_exact.mpr (.this rest named (by rw [Setting.isExtended, extended]; rfl) (next_ended ended))

-- Either the text of a segment is read up to its end, as a path that binds tightest, or it starts with a
-- number.
theorem segment_read (depth : Nat) (ended : s.stop = .endOfText last) (extended : s.profile = .extended)
    (isSegment : segment.IsSegment) (parted : ∀ c ∈ rest.head?, Token.isNamePart c = false)
    (read : Reads .extended (segment.text.toList ++ rest) tokens []) :
    (∃ back before behind, ReadAs segment back ∧ tokens = before ++ behind ∧ Reads .extended rest behind [] ∧
      ∀ written, written.map Lexeme.token = before → Climbs s (level s (depth + 1)) 9 back written) ∨
    ∃ token more, tokens = token :: more ∧ token.isNumber = true := by
  cases isSegment with
  | index i =>
    have plain : Path.Plain .extended (.index i) := .index i
    obtain ⟨behind, rfl, later⟩ := ((readable_text plain).reads rest parted).behind read
    exact .inl ⟨_, _, behind, .same nofun, rfl, later, fun written spelled => climbs_index ended spelled⟩
  | field name =>
    change Reads .extended ((fieldText name).toList ++ rest) tokens [] at read
    by_cases self : name = "@"
    · subst self
      have single : Reads .extended ('@' :: ([] ++ rest)) [.identifier "@"] rest :=
        Reads.name (by decide) (by decide) nofun parted
      obtain ⟨behind, rfl, later⟩ := single.behind read
      exact .inl ⟨_, _, behind, .self, rfl, later, fun written spelled => climbs_self ended extended spelled⟩
    · by_cases spelled : needsQuotes name = true ∨ IsWord name
      · have legible : Legible .extended name := legible_of_recoverable ⟨self, spelled⟩
        obtain ⟨behind, rfl, later⟩ := ((readable_name legible.2).reads rest parted).behind read
        refine .inl ⟨_, _, behind, .same ?_, rfl, later, fun written isName => ?_⟩
        · rintro other same
          cases same
          exact ⟨self, spelled⟩
        · exact climbs_fields ended self (by rw [extended]; exact isName)
      · obtain ⟨quotes, noWord⟩ := not_or.mp spelled
        rw [fieldText, if_neg quotes] at read
        exact .inr (number_of_noWord (by simpa using quotes) noWord read)

theorem foldl_after (noThis : p ≠ .this) (noRoot : p ≠ .root) (isSegment : ∀ q ∈ others, q.IsSegment) :
    others.foldl Path.after p = others.foldl .child p := by
  induction others generalizing p with
  | nil => rfl
  | cons q others ih =>
    have goesOn : p.after q = .child p q := by
      cases isSegment q List.mem_cons_self
      all_goals
        unfold Path.after
        split <;> first | rfl | contradiction
    rw [List.foldl_cons, List.foldl_cons, goesOn]
    exact ih nofun nofun fun r here => isSegment r (List.mem_cons_of_mem q here)

theorem chain_cons (isSegment : ∀ p ∈ first :: others, p.IsSegment) :
    Path.chain (first :: others) = others.foldl .child first := by
  have later : ∀ q ∈ others, q.IsSegment := fun q here => isSegment q (List.mem_cons_of_mem first here)
  have starts : first ≠ .this ∧ first ≠ .root := by
    cases isSegment first List.mem_cons_self <;> exact ⟨nofun, nofun⟩
  have same : Path.this.after first = first := by
    cases isSegment first List.mem_cons_self <;> rfl
  rw [Path.chain, List.foldl_cons, same]
  exact foldl_after starts.1 starts.2 later

theorem tightness_segment (isSegment : segment.IsSegment) : segment.tightness = 9 := by
  cases isSegment <;> rfl

-- A chain is written without round brackets.
theorem text_chain (tight : 4 ≤ p.tightness) (isSegment : ∀ q ∈ others, q.IsSegment) :
    (others.foldl .child p).text.toList = p.text.toList ++ others.flatMap fun q => '.' :: q.text.toList := by
  induction others generalizing p with
  | nil => simp
  | cons q others ih =>
    have text : (Path.child p q).text = p.text ++ "." ++ q.text := by
      rw [Path.text, bracketed, if_neg (by omega), bracketed, tightness_segment (isSegment q List.mem_cons_self)]
      rfl
    have rest := @ih (.child p q) (Nat.le_refl _) fun r here => isSegment r (List.mem_cons_of_mem q here)
    rw [List.foldl_cons, rest, text]
    simp

theorem parted_chain : ∀ c ∈ (others.flatMap fun q => '.' :: q.text.toList).head?, Token.isNamePart c = false := by
  intro c here
  cases others with
  | nil => cases here
  | cons q others =>
    cases here
    decide

theorem foldl_child_inj (lengths : backs.length = others.length)
    (same : backs.foldl .child q = others.foldl .child p) : q = p ∧ backs = others := by
  induction others generalizing p q backs with
  | nil =>
    cases List.eq_nil_of_length_eq_zero lengths
    exact ⟨same, rfl⟩
  | cons segment others ih =>
    cases backs with
    | nil => cases lengths
    | cons back backs =>
      obtain ⟨isChild, rfl⟩ := ih (Nat.succ.inj lengths) same
      cases isChild
      exact ⟨rfl, rfl⟩

theorem foldl_child_ne_arithmetic {operator : ArithmeticOperator} {left right : Operand}
    (plain : ∀ operator left right, p ≠ .arithmetic operator left right) :
    others.foldl .child p ≠ .arithmetic operator left right := by
  induction others generalizing p with
  | nil => exact plain operator left right
  | cons segment others ih => exact ih nofun

theorem starts_segment (isSegment : segment.IsSegment) : ∃ c more, segment.text.toList = c :: more ∧ c ≠ '.' := by
  cases isSegment with
  | index i =>
    have plain : Path.Plain .extended (.index i) := .index i
    exact (readable_text plain).starts
  | field name =>
    change ∃ c more, (fieldText name).toList = c :: more ∧ c ≠ '.'
    unfold fieldText
    cases quotes : needsQuotes name with
    | true => exact ⟨'\'', _, String.toList_ofList, by decide⟩
    | false =>
      obtain ⟨c, word, spelled, solid⟩ := bare_parts quotes
      refine ⟨c, word, spelled, ?_⟩
      rintro rfl
      exact (solid '.' List.mem_cons_self).2 (by decide)

-- A point behind a path that has been read is followed by an operand.
theorem operand_behind {point : Lexeme} (ended : s.stop = .endOfText last) (climbs : Climbs s below tightness p written)
    (tight : 4 ≤ tightness) (sign : point.token = .dot)
    (accepted : path s below (written ++ point :: behind) = .ok (q, remaining)) :
    ∃ tiers least right later, pathWithin s below tiers least behind = .ok (right, later) := by
  have isChild : point.token = Infix.child.token := sign
  have ends : Ends (tightness + 1) (point :: behind) := ends_binary isChild (Nat.lt_succ_of_le tight)
  obtain ⟨turns, enough, same⟩ := climbs Grammar.tiers 0 (point :: behind) (Nat.zero_le _) (by decide) ends
  have head : head? (point :: behind) = some .dot := congrArg some sign
  cases turns with
  | zero => cases enough
  | succ turns =>
    have operator : (head? (point :: behind)).bind Infix.ofToken? = some .child := by
      rw [head]
      rfl
    rw [path, same, pathTail_operator operator (by decide), next_ended ended] at accepted
    obtain ⟨_, moved, accepted⟩ := bind_ok accepted
    cases moved
    obtain ⟨⟨right, later⟩, second, _⟩ := bind_ok accepted
    exact ⟨_, _, right, later, second⟩

-- Behind a path that has been read, every segment is read in turn.
theorem chain_read (ended : s.stop = .endOfText last) (extended : s.profile = .extended)
    (isSegment : ∀ q ∈ others, q.IsSegment) (climbs : Climbs s (level s (depth + 1)) tightness p written)
    (tight : 4 ≤ tightness)
    (read : Reads .extended (others.flatMap fun q => '.' :: q.text.toList) (behind.map Lexeme.token) [])
    (accepted : path s (level s (depth + 1)) (written ++ behind) = .ok (q, remaining)) :
    ∃ backs, List.Forall₂ ReadAs others backs ∧ q = backs.foldl .child p := by
  induction others generalizing p tightness written behind with
  | nil =>
    cases behind with
    | nil =>
      rw [path_read climbs ends_nil] at accepted
      cases accepted
      exact ⟨[], .nil, rfl⟩
    | cons => cases read
  | cons segment others ih =>
    have here := isSegment segment List.mem_cons_self
    obtain ⟨c, more, starts, plain⟩ := starts_segment here
    rw [List.flatMap_cons, List.cons_append] at read
    have dot : ∀ rest, Reads .extended ('.' :: (segment.text.toList ++ rest)) [.dot] (segment.text.toList ++ rest) :=
      fun rest => .dot (by simpa [starts] using plain)
    obtain ⟨tokens, spelled, inner⟩ := (dot _).behind read
    obtain ⟨point, behind, rfl, isDot, rfl⟩ := List.map_eq_cons_iff.mp spelled
    rcases segment_read depth ended extended here parted_chain inner with
      ⟨back, before, after, readAs, spelled, rest, climbsBack⟩ | ⟨token, more, spelled, number⟩
    · obtain ⟨operand, behind, rfl, operandSpelled, rfl⟩ := List.map_eq_append_iff.mp spelled
      have joined : Climbs s (level s (depth + 1)) 4 (.child p back) (written ++ point :: operand) :=
        climbs_binary .child ended isDot climbs (climbsBack operand operandSpelled) tight (by decide)
      rw [← List.cons_append, ← List.append_assoc] at accepted
      obtain ⟨backs, all, same⟩ := ih (fun q later => isSegment q (List.mem_cons_of_mem segment later)) joined
        (Nat.le_refl _) rest accepted
      exact ⟨back :: backs, .cons readAs all, same⟩
    · obtain ⟨_, _, _, _, operand⟩ := operand_behind ended climbs tight isDot accepted
      obtain ⟨lexeme, behind, rfl, same, _⟩ := List.map_eq_cons_iff.mp spelled
      have none := pathWithin_starts operand (congrArg some same)
      rw [number] at none
      cases none

-- An expression that is no arithmetic is a path.
theorem path_of_expression (read : expression s below written = .ok (p, remaining))
    (plain : ∀ operator left right, p ≠ .arithmetic operator left right) :
    path s below written = .ok (p, remaining) := by
  cases arithmetic_exact.mp (expression_arithmetic.mp read) with
  | alone _ _ single =>
    cases operand_parts single with
    | path _ _ found => exact found
  | binary => exact absurd rfl (plain _ _ _)

structure Chained (p : Path) : Prop where
  plain : Path.Plain .extended p
  tight : 4 ≤ p.tightness
  shallow : nesting (p.tokens .extended) ≤ 1

theorem chained_segment (isSegment : segment.IsSegment)
    (recoverable : ∀ name, segment = .field name → Recoverable name) :
    Chained segment := by
  cases isSegment with
  | index i => exact ⟨.index i, (by decide : 4 ≤ 9), Nat.le_refl 1⟩
  | field name =>
    have legible := legible_of_recoverable (recoverable name rfl)
    refine ⟨.fields name [] fun other here => ?_, (by decide : 4 ≤ 9), ?_⟩
    · cases List.mem_singleton.mp here
      exact legible
    · have neutral : nesting [nameToken .extended name] = nesting [] :=
        (balanced_nil.cons fun _ => nameToken_neutral).2
      exact Nat.le_trans (Nat.le_of_eq neutral) (by decide)

theorem Chained.child (chained : Chained p) (isSegment : segment.IsSegment)
    (recoverable : ∀ name, segment = .field name → Recoverable name) : Chained (.child p segment) := by
  have behind := chained_segment isSegment recoverable
  refine ⟨.child p segment chained.plain behind.plain, Nat.le_refl 4, ?_⟩
  have tokens : (Path.child p segment).tokens .extended =
      p.tokens .extended ++ Infix.child.token :: segment.tokens .extended := by
    rw [Path.tokens, bracketedTokens, if_neg (by have := chained.tight; omega), bracketedTokens,
      if_neg (by rw [tightness_segment isSegment]; decide)]
    rfl
  rw [tokens, (balanced_binary .child (balanced_tokens chained.plain) (balanced_tokens behind.plain)).2]
  exact Nat.max_le.mpr ⟨chained.shallow, behind.shallow⟩

theorem chained_foldl (chained : Chained p) (isSegment : ∀ q ∈ others, q.IsSegment)
    (recoverable : ∀ name, Path.field name ∈ others → Recoverable name) : Chained (others.foldl .child p) := by
  induction others generalizing p with
  | nil => exact chained
  | cons q others ih =>
    have here := chained.child (isSegment q List.mem_cons_self)
      fun name same => recoverable name (same ▸ List.mem_cons_self)
    exact ih here (fun r later => isSegment r (List.mem_cons_of_mem q later))
      fun name later => recoverable name (List.mem_cons_of_mem q later)

theorem Chained.ofText (chained : Chained p) : Path.ofText .extended p.text = .ok p := by
  have read : Reads .extended p.text.toList (p.tokens .extended) [] := by
    simpa using (readable_text chained.plain).reads [] nofun
  refine Path.ofText_text .extended p chained.plain ?_
  rw [(Reads.ofText_iff.mp read).1]
  exact Nat.le_trans chained.shallow (by decide)

theorem recoverable_of_readAs (all : List.Forall₂ ReadAs segments segments) :
    ∀ name, Path.field name ∈ segments → Recoverable name := by
  intro name here
  have back := List.forall₂_same.mp all _ here
  generalize isField : Path.field name = segment at back
  cases back with
  | same recoverable => exact recoverable name isField.symm

theorem recoverable_of_ofText (isSegment : ∀ p ∈ segments, p.IsSegment)
    (accepted : Path.ofText .extended (Path.chain segments).text = .ok (Path.chain segments)) :
    ∀ name, Path.field name ∈ segments → Recoverable name := by
  cases segments with
  | nil => nofun
  | cons first others =>
    have here := isSegment first List.mem_cons_self
    have later : ∀ q ∈ others, q.IsSegment := fun q here => isSegment q (List.mem_cons_of_mem first here)
    rw [chain_cons isSegment] at accepted
    have noArithmetic : ∀ operator left right, others.foldl .child first ≠ .arithmetic operator left right := by
      refine fun operator left right => foldl_child_ne_arithmetic fun _ _ _ => ?_
      cases here <;> nofun
    unfold Path.ofText at accepted
    obtain ⟨last, stopped⟩ := whole_ended accepted
    have read := Reads.ofText_iff.mpr ⟨rfl, last, stopped⟩
    rw [text_chain (by rw [tightness_segment here]; decide) later] at read
    generalize TokenStream.ofText .extended (others.foldl .child first).text = stream at accepted stopped read
    obtain ⟨_, _, accepted⟩ := bind_ok accepted
    obtain ⟨⟨p, rest⟩, inner, accepted⟩ := bind_ok accepted
    dsimp only at accepted
    split at accepted
    · cases accepted
      have isPath := path_of_expression inner noArithmetic
      obtain ⟨depth, deep⟩ : ∃ depth, maxNesting = depth + 1 := ⟨_, rfl⟩
      rw [deep] at isPath
      rcases segment_read depth stopped rfl here parted_chain read with
        ⟨back, before, after, readAs, spelled, rest, climbs⟩ | ⟨token, more, spelled, number⟩
      · obtain ⟨written, behind, all, isFirst, rfl⟩ := List.map_eq_append_iff.mp spelled
        rw [all] at isPath
        obtain ⟨backs, allRead, same⟩ := chain_read stopped rfl later (climbs written isFirst) (by decide) rest isPath
        obtain ⟨rfl, rfl⟩ := foldl_child_inj allRead.length_eq.symm same.symm
        exact recoverable_of_readAs (.cons readAs allRead)
      · obtain ⟨lexeme, behind, all, same, _⟩ := List.map_eq_cons_iff.mp spelled
        have none := pathWithin_starts isPath (by rw [all]; exact congrArg some same)
        rw [number] at none
        cases none
    · exact absurd accepted unexpected_rejects

-- The text of a full path is read as that path again exactly if each of its names is written in quotation
-- marks or is one word, and none is the at sign.
theorem ofText_chain_iff (isSegment : ∀ p ∈ segments, p.IsSegment) :
    Path.ofText .extended (Path.chain segments).text = .ok (Path.chain segments) ↔
      ∀ name, Path.field name ∈ segments → Recoverable name := by
  refine ⟨recoverable_of_ofText isSegment, fun recoverable => ?_⟩
  cases segments with
  | nil => exact Chained.ofText ⟨.this, (by decide : 4 ≤ 9), (by decide)⟩
  | cons first others =>
    have start : Chained first :=
      chained_segment (isSegment first List.mem_cons_self)
        fun name same => recoverable name (same ▸ List.mem_cons_self)
    rw [chain_cons isSegment]
    exact (chained_foldl start (fun q here => isSegment q (List.mem_cons_of_mem first here))
      fun name here => recoverable name (List.mem_cons_of_mem first here)).ofText

-- Names with a blank, with a hyphen inside, that are a keyword, and that end in digits.
theorem ofText_chain_iff_words :
    let segments := [Path.field "b c", .field "x-1", .index 3, .field "where", .field "true"]
    (∀ p ∈ segments, p.IsSegment) ∧
      Path.ofText .extended (Path.chain segments).text = .ok (Path.chain segments) := by
  intro segments
  have isSegment : ∀ p ∈ segments, p.IsSegment := by
    intro p here
    simp only [segments, List.mem_cons, List.not_mem_nil, or_false] at here
    rcases here with rfl | rfl | rfl | rfl | rfl
    all_goals first | exact .field _ | exact .index _
  refine ⟨isSegment, (ofText_chain_iff isSegment).mpr fun name here => ?_⟩
  have one : name = "b c" ∨ name = "x-1" ∨ name = "where" ∨ name = "true" := by
    simpa [segments, Path.field] using here
  rcases one with rfl | rfl | rfl | rfl
  · exact ⟨by decide, .inl (by decide)⟩
  · exact ⟨by decide, .inr ⟨'x', "-1".toList, rfl, by decide, List.all_eq_true.mp (by decide)⟩⟩
  · exact ⟨by decide, .inl (by decide)⟩
  · exact ⟨by decide, .inr ⟨'t', "rue".toList, rfl, by decide, List.all_eq_true.mp (by decide)⟩⟩

-- A name that starts with a digit is written bare, and the digit is read as a number.
theorem ofText_chain_digit :
    let p := Path.chain [.field "1a"]
    p.text = "1a" ∧ Path.ofText .extended p.text ≠ .ok p := by
  intro p
  have bare : needsQuotes "1a" = false := by decide
  refine ⟨by decide, fun accepted => ?_⟩
  have isSegment : ∀ p ∈ [Path.field "1a"], p.IsSegment := fun p here => List.mem_singleton.mp here ▸ .field "1a"
  rcases (recoverable_of_ofText isSegment accepted "1a" List.mem_cons_self).2
    with quotes | ⟨c, word, spelled, starts, _⟩
  · rw [bare] at quotes
    cases quotes
  · obtain ⟨rfl, _⟩ := List.cons.inj (spelled : ['1', 'a'] = c :: word)
    revert starts
    decide

end TreePath
