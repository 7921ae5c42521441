import Mathlib.Data.List.Infix
import Mathlib.Data.List.TakeWhile
import TreePath.Path.OperatorReader
namespace TreePath

namespace Regex

-- Whether a dollar sign in front of a text refers to a group.
def StartsReference : List Char → Prop
  | [] => False
  | c :: rest => isReferenceChar c = true ∨ c = '\x7b' ∧ '\x7d' ∈ rest

def IsChar (piece : Piece) : Prop := ∃ c, piece = .char c

variable {text rest later : List Char} {c : Char} {piece : Piece}

theorem not_isChar_reference (text : List Char) : ¬IsChar (reference text) := by
  rintro ⟨c, same⟩
  unfold reference at same
  dsimp only at same
  generalize Integer.readDigits? _ = number at same
  cases number with
  | none => cases same
  | some n =>
    dsimp only at same
    split at same <;> cases same

theorem readReference?_brace (rest : List Char) : readReference? ('\x7b' :: rest) =
    match rest.dropWhile (· ≠ '\x7d') with
    | _ :: later => some (reference (rest.takeWhile (· ≠ '\x7d')), later)
    | [] => none := rfl

theorem readReference?_name (apart : text.head? ≠ some '\x7b') : readReference? text =
    if text.takeWhile isReferenceChar = [] then none
    else some (reference (text.takeWhile isReferenceChar), text.dropWhile isReferenceChar) := by
  cases text with
  | nil => rfl
  | cons c rest =>
    unfold readReference?
    split
    · rename_i same
      cases same
      exact absurd rfl apart
    · rfl

theorem readReference?_none_iff : readReference? text = none ↔ ¬StartsReference text := by
  cases text with
  | nil => simp [readReference?, StartsReference]
  | cons c rest =>
    by_cases brace : c = '\x7b'
    · subst brace
      have noName : isReferenceChar '\x7b' = false := by decide
      have closed : rest.dropWhile (· ≠ '\x7d') = [] ↔ '\x7d' ∉ rest := by
        rw [List.dropWhile_eq_nil_iff]
        simp [List.forall_mem_ne']
      rw [readReference?_brace]
      cases behind : rest.dropWhile (· ≠ '\x7d') with
      | nil => simpa [StartsReference, noName] using closed.mp behind
      | cons d later =>
        rw [behind] at closed
        simpa [StartsReference, noName] using closed
    · rw [readReference?_name (by simpa using brace)]
      cases named : isReferenceChar c <;> simp [StartsReference, named, brace]

theorem readReference?_some (found : readReference? text = some (piece, later)) :
    ¬IsChar piece ∧ later.length ≤ text.length := by
  by_cases brace : text.head? = some '\x7b'
  · obtain ⟨rest, rfl⟩ : ∃ rest, text = '\x7b' :: rest := by
      cases text with
      | nil => cases brace
      | cons c rest => exact ⟨rest, congrArg (· :: rest) (Option.some.inj brace)⟩
    rw [readReference?_brace] at found
    have shorter := List.length_dropWhile_le (· ≠ '\x7d') rest
    split at found
    · rename_i d behind same
      cases found
      rw [same, List.length_cons] at shorter
      exact ⟨not_isChar_reference _, by simp; omega⟩
    · cases found
  · rw [readReference?_name brace] at found
    split at found
    · cases found
    · cases found
      exact ⟨not_isChar_reference _, List.length_dropWhile_le _ _⟩

theorem piecesIn_same {turns more : Nat} (enough : text.length ≤ turns) (plenty : text.length ≤ more) :
    piecesIn turns text = piecesIn more text := by
  induction turns generalizing text more with
  | zero =>
    cases List.length_eq_zero_iff.mp (Nat.le_zero.mp enough)
    cases more <;> rfl
  | succ turns ih =>
    cases text with
    | nil => cases more <;> rfl
    | cons c rest =>
      obtain _ | more := more
      · cases plenty
      have enough := Nat.le_of_succ_le_succ enough
      have plenty := Nat.le_of_succ_le_succ plenty
      unfold piecesIn
      split
      · rw [ih enough plenty]
      · split
        · rename_i rest
          rw [ih (Nat.le_of_succ_le enough) (Nat.le_of_succ_le plenty)]
        · split
          · rename_i found
            have shorter := (readReference?_some found).2
            rw [ih (shorter.trans enough) (shorter.trans plenty)]
          · rw [ih enough plenty]

theorem pieces_char (apart : c ≠ '$') : pieces (c :: rest) = .char c :: pieces rest :=
  if_pos apart

theorem pieces_double : pieces ('$' :: '$' :: rest) = .char '$' :: pieces rest := by
  have same : piecesIn (rest.length + 1) rest = pieces rest := piecesIn_same (Nat.le_succ _) (Nat.le_refl _)
  rw [← same]
  rfl

theorem pieces_dollar (apart : rest.head? ≠ some '$') : pieces ('$' :: rest) =
    match readReference? rest with
    | some (piece, later) => piece :: piecesIn rest.length later
    | none => .char '$' :: pieces rest := by
  have noDouble : ∀ behind, rest = '$' :: behind → False := by
    rintro behind rfl
    exact apart rfl
  rw [pieces, List.length_cons, piecesIn]
  · rfl
  · exact noDouble

theorem pieces_alone (apart : rest.head? ≠ some '$') (alone : ¬StartsReference rest) :
    pieces ('$' :: rest) = .char '$' :: pieces rest := by
  rw [pieces_dollar apart, readReference?_none_iff.mpr alone]

theorem pieces_reference (apart : rest.head? ≠ some '$') (refers : StartsReference rest) :
    ∃ piece later, ¬IsChar piece ∧ pieces ('$' :: rest) = piece :: later := by
  rw [pieces_dollar apart]
  cases found : readReference? rest with
  | none => exact absurd refers (readReference?_none_iff.mp found)
  | some read => exact ⟨_, _, (readReference?_some found).1, rfl⟩

end Regex

namespace NamedOperator

-- What a backslash and a character behind it stand for where they refer to no group.
def ofPair : Char → List Char
  | 'n' => ['\n']
  | 't' => ['\t']
  | 'g' => ['\\', 'g']
  | c => [c]

-- What a replacement says where it refers to no group. A backslash at the end stands for itself.
def unescaped : List Char → List Char
  | [] => []
  | c :: rest =>
    if c ≠ '\\' then c :: unescaped rest
    else
      match rest with
      | [] => [c]
      | d :: rest => ofPair d ++ unescaped rest

-- A character that a replacement says, apart from whether it is a dollar sign written with a backslash.
inductive Glyph where
  | char (c : Char)
  | escapedDollar

namespace Glyph

def literal : Glyph → Char
  | char c => c
  | escapedDollar => '$'

-- How a glyph is written in a template. Of the dollar signs only those without a backslash are doubled.
def template : Glyph → List Char
  | char c => if c = '$' then ['$', '$'] else [c]
  | escapedDollar => ['$']

def written : List Glyph → List Char
  | [] => []
  | glyph :: rest => glyph.template ++ written rest

def read : List Char → List Glyph
  | [] => []
  | c :: rest =>
    if c ≠ '\\' then char c :: read rest
    else
      match rest with
      | [] => [char c]
      | d :: rest => (if d = '$' then [escapedDollar] else (ofPair d).map char) ++ read rest

end Glyph

-- Whether a replacement refers to no group, by number or by name.
structure Unreferring (text : List Char) : Prop where
  byNumber : ∀ d, CharClass.isDigit d = true → ¬['\\', d] <:+: text
  byName : ¬['\\', 'g', '<'] <:+: text

variable {text rest : List Char} {turns : Nat} {c d : Char}

theorem unescaped_eq (text : List Char) : unescaped text = (Glyph.read text).map Glyph.literal := by
  fun_induction Glyph.read text with
  | case1 => rfl
  | case2 c rest plain ih =>
    rw [unescaped.eq_def]
    simp [plain, ih, Glyph.literal]
  | case3 c escape => simp [unescaped, escape, Glyph.literal]
  | case4 c escape d rest ih =>
    have literals : Glyph.literal ∘ Glyph.char = id := rfl
    rw [unescaped, if_neg escape, ih, List.map_append]
    split
    · rename_i dollar
      rw [dollar]
      rfl
    · rw [List.map_map, literals, List.map_id]

theorem Glyph.written_append (before behind : List Glyph) :
    written (before ++ behind) = written before ++ written behind := by
  induction before with
  | nil => rfl
  | cons glyph before ih => rw [List.cons_append, written, written, ih, List.append_assoc]

theorem Unreferring.behind (plain : Unreferring text) (suffix : rest <:+ text) : Unreferring rest :=
  ⟨fun d digit here => plain.byNumber d digit (here.trans suffix.isInfix),
    fun here => plain.byName (here.trans suffix.isInfix)⟩

theorem templateIn_pair (plain : Unreferring ('\\' :: d :: rest)) :
    templateIn (turns + 1) ('\\' :: d :: rest) =
      Glyph.written (if d = '$' then [.escapedDollar] else (ofPair d).map .char) ++ templateIn turns rest := by
  have noDigit : CharClass.isDigit d = false := by
    rw [← Bool.not_eq_true]
    exact fun digit => plain.byNumber d digit ⟨[], rest, rfl⟩
  by_cases name : d = 'g'
  · subst name
    cases rest with
    | nil => simp [templateIn, ofPair, Glyph.written, Glyph.template]
    | cons c rest =>
      have apart : c ≠ '<' := by
        rintro rfl
        exact plain.byName ⟨[], rest, rfl⟩
      simp [templateIn, ofPair, Glyph.written, Glyph.template, apart]
  by_cases line : d = 'n'
  · subst line
    simp [templateIn, ofPair, Glyph.written, Glyph.template]
  by_cases tab : d = 't'
  · subst tab
    simp [templateIn, ofPair, Glyph.written, Glyph.template]
  by_cases dollar : d = '$'
  · subst dollar
    simp [templateIn, Glyph.written, Glyph.template, noDigit]
  simp [templateIn, ofPair, Glyph.written, Glyph.template, noDigit, name, dollar]

theorem templateIn_eq (enough : text.length ≤ turns) (plain : Unreferring text) :
    templateIn turns text = Glyph.written (Glyph.read text) := by
  fun_induction Glyph.read text generalizing turns with
  | case1 => cases turns <;> rfl
  | case2 c rest apart ih =>
    obtain _ | turns := turns
    · cases enough
    have later := @ih turns (Nat.le_of_succ_le_succ enough) (plain.behind (List.suffix_cons c rest))
    unfold templateIn
    by_cases dollar : c = '$'
    · simp [dollar, later, Glyph.written, Glyph.template]
    · simp [dollar, apart, later, Glyph.written, Glyph.template]
  | case3 c escape =>
    obtain _ | turns := turns
    · cases enough
    simp_all [templateIn, Glyph.written, Glyph.template]
  | case4 c escape d rest ih =>
    obtain _ | turns := turns
    · cases enough
    obtain rfl := not_not.mp escape
    have later := @ih turns (by simp at enough; omega) (plain.behind ⟨['\\', d], rfl⟩)
    rw [templateIn_pair plain, later, Glyph.written_append]

namespace Glyph

-- The parts of a template that stand for some glyphs as they are.
def verbatim (glyphs : List Glyph) : List Regex.Piece := glyphs.map fun glyph => .char glyph.literal

-- Whether a dollar sign written once stands for itself in front of these glyphs. Behind any dollar signs written
-- twice there is neither another one written once nor what makes a reference.
def Alone : List Glyph → Prop
  | [] => True
  | escapedDollar :: _ => False
  | char c :: rest => if c = '$' then Alone rest else ¬Regex.StartsReference (c :: rest.map literal)

def Settled : List Glyph → Prop
  | [] => True
  | escapedDollar :: rest => Alone rest ∧ Settled rest
  | char _ :: rest => Settled rest

variable {glyphs : List Glyph}

theorem mem_written (apart : c ≠ '$') : c ∈ written glyphs ↔ c ∈ glyphs.map literal := by
  induction glyphs with
  | nil => simp [written]
  | cons glyph glyphs ih =>
    rw [written, List.mem_append, List.map_cons, List.mem_cons, ih]
    cases glyph with
    | escapedDollar => simp [template, literal, apart]
    | char d =>
      by_cases dollar : d = '$'
      · simp [template, literal, dollar, apart]
      · simp [template, literal, dollar]

theorem startsReference_written (c : Char) (glyphs : List Glyph) : Regex.StartsReference (c :: written glyphs) ↔
    Regex.StartsReference (c :: glyphs.map literal) := by
  have closing : '\x7d' ≠ '$' := by decide
  rw [Regex.StartsReference, Regex.StartsReference, mem_written closing]

theorem written_char (apart : c ≠ '$') : written (char c :: glyphs) = c :: written glyphs := by
  simp [written, template, apart]

theorem pieces_char (c : Char) (glyphs : List Glyph) :
    Regex.pieces (written (char c :: glyphs)) = .char c :: Regex.pieces (written glyphs) := by
  by_cases dollar : c = '$'
  · subst dollar
    exact Regex.pieces_double
  · rw [written_char dollar, Regex.pieces_char dollar]

theorem pieces_dollar_char (glyphs : List Glyph) :
    Regex.pieces ('$' :: written (char '$' :: glyphs)) = .char '$' :: Regex.pieces ('$' :: written glyphs) :=
  Regex.pieces_double

theorem pieces_dollar_escaped (glyphs : List Glyph) :
    Regex.pieces ('$' :: written (escapedDollar :: glyphs)) = .char '$' :: Regex.pieces (written glyphs) :=
  Regex.pieces_double

theorem pieces_dollar_alone (apart : c ≠ '$') (alone : ¬Regex.StartsReference (c :: glyphs.map literal)) :
    Regex.pieces ('$' :: written (char c :: glyphs)) = .char '$' :: .char c :: Regex.pieces (written glyphs) := by
  have noDollar : (c :: written glyphs).head? ≠ some '$' := by simpa using apart
  rw [← startsReference_written] at alone
  rw [written_char apart, Regex.pieces_alone noDollar alone, Regex.pieces_char apart]

theorem pieces_dollar_reference (apart : c ≠ '$') (refers : Regex.StartsReference (c :: glyphs.map literal)) :
    ∃ piece later, ¬Regex.IsChar piece ∧ Regex.pieces ('$' :: written (char c :: glyphs)) = piece :: later := by
  have noDollar : (c :: written glyphs).head? ≠ some '$' := by simpa using apart
  rw [← startsReference_written] at refers
  rw [written_char apart]
  exact Regex.pieces_reference noDollar refers

theorem verbatim_cons (glyph : Glyph) (glyphs : List Glyph) :
    verbatim (glyph :: glyphs) = .char glyph.literal :: verbatim glyphs := rfl

theorem length_verbatim (glyphs : List Glyph) : (verbatim glyphs).length = glyphs.length :=
  List.length_map _

theorem isChar_of_mem_verbatim {piece : Regex.Piece} (listed : piece ∈ verbatim glyphs) : Regex.IsChar piece := by
  obtain ⟨glyph, _, rfl⟩ := List.mem_map.mp listed
  exact ⟨glyph.literal, rfl⟩

-- Where nothing is a reference, reading the template back may lose dollar signs but gains none.
theorem length_pieces_le (glyphs : List Glyph) :
    ((∀ piece ∈ Regex.pieces (written glyphs), Regex.IsChar piece) →
      (Regex.pieces (written glyphs)).length ≤ glyphs.length) ∧
    ((∀ piece ∈ Regex.pieces ('$' :: written glyphs), Regex.IsChar piece) →
      (Regex.pieces ('$' :: written glyphs)).length ≤ glyphs.length + 1) := by
  induction glyphs with
  | nil => exact ⟨fun _ => Nat.le_refl _, fun _ => Nat.le_refl _⟩
  | cons glyph glyphs ih =>
    obtain ⟨bare, behind⟩ := ih
    cases glyph with
    | escapedDollar =>
      refine ⟨behind, fun chars => ?_⟩
      rw [pieces_dollar_escaped] at chars ⊢
      have shorter := bare fun piece listed => chars piece (List.mem_cons_of_mem _ listed)
      simp
      omega
    | char c =>
      constructor
      · intro chars
        rw [pieces_char] at chars ⊢
        exact Nat.succ_le_succ (bare fun piece listed => chars piece (List.mem_cons_of_mem _ listed))
      · intro chars
        by_cases dollar : c = '$'
        · subst dollar
          rw [pieces_dollar_char] at chars ⊢
          exact Nat.succ_le_succ (behind fun piece listed => chars piece (List.mem_cons_of_mem _ listed))
        by_cases refers : Regex.StartsReference (c :: glyphs.map literal)
        · obtain ⟨piece, later, noChar, read⟩ := pieces_dollar_reference dollar refers
          rw [read] at chars
          exact absurd (chars piece List.mem_cons_self) noChar
        · rw [pieces_dollar_alone dollar refers] at chars ⊢
          have shorter := bare fun piece listed =>
            chars piece (List.mem_cons_of_mem _ (List.mem_cons_of_mem _ listed))
          exact Nat.succ_le_succ (Nat.succ_le_succ shorter)

-- Two dollar signs written once next to each other are read as one, so one is missing then.
theorem pieces_ne_verbatim (glyphs : List Glyph) : Regex.pieces (written glyphs) ≠ .char '$' :: verbatim glyphs := by
  intro same
  have chars : ∀ piece ∈ Regex.pieces (written glyphs), Regex.IsChar piece := by
    rw [same]
    intro piece listed
    rcases List.mem_cons.mp listed with rfl | later
    · exact ⟨'$', rfl⟩
    · exact isChar_of_mem_verbatim later
  have shorter := (length_pieces_le glyphs).1 chars
  rw [same, List.length_cons, length_verbatim] at shorter
  omega

theorem pieces_eq_iff (glyphs : List Glyph) :
    (Regex.pieces (written glyphs) = verbatim glyphs ↔ Settled glyphs) ∧
      (Regex.pieces ('$' :: written glyphs) = .char '$' :: verbatim glyphs ↔ Alone glyphs ∧ Settled glyphs) := by
  induction glyphs with
  | nil => exact ⟨⟨fun _ => trivial, fun _ => rfl⟩, ⟨fun _ => ⟨trivial, trivial⟩, fun _ => rfl⟩⟩
  | cons glyph glyphs ih =>
    obtain ⟨bare, behind⟩ := ih
    cases glyph with
    | escapedDollar =>
      refine ⟨behind, ?_⟩
      rw [pieces_dollar_escaped, verbatim_cons, List.cons_inj_right]
      exact ⟨fun same => absurd same (pieces_ne_verbatim glyphs), fun alone => alone.1.elim⟩
    | char c =>
      constructor
      · rw [pieces_char, verbatim_cons, literal, List.cons_inj_right]
        exact bare
      · by_cases dollar : c = '$'
        · subst dollar
          rw [pieces_dollar_char, verbatim_cons, literal, List.cons_inj_right]
          exact behind
        by_cases refers : Regex.StartsReference (c :: glyphs.map literal)
        · obtain ⟨piece, later, noChar, read⟩ := pieces_dollar_reference dollar refers
          rw [read, List.cons.injEq]
          constructor
          · rintro ⟨rfl, -⟩
            exact absurd ⟨'$', rfl⟩ noChar
          · rintro ⟨alone, -⟩
            rw [Alone, if_neg dollar] at alone
            exact absurd refers alone
        · rw [pieces_dollar_alone dollar refers, verbatim_cons, literal, List.cons_inj_right, List.cons_inj_right, bare,
            Alone, if_neg dollar, Settled]
          exact ⟨fun settled => ⟨refers, settled⟩, fun both => both.2⟩

theorem settled_of_notMem (bare : escapedDollar ∉ glyphs) : Settled glyphs := by
  induction glyphs with
  | nil => trivial
  | cons glyph glyphs ih =>
    rw [List.mem_cons, not_or] at bare
    cases glyph with
    | escapedDollar => exact absurd rfl bare.1
    | char c => exact ih bare.2

theorem infix_of_mem_read (escaped : escapedDollar ∈ read text) : ['\\', '$'] <:+: text := by
  fun_induction read text with
  | case1 => cases escaped
  | case2 c rest plain ih =>
    have later := (List.mem_cons.mp escaped).resolve_left nofun
    exact (ih later).trans (List.suffix_cons c rest).isInfix
  | case3 c escape => simp at escaped
  | case4 c escape d rest ih =>
    obtain rfl := not_not.mp escape
    rcases List.mem_append.mp escaped with here | later
    · split at here
      · rename_i dollar
        subst dollar
        exact ⟨[], rest, rfl⟩
      · simp at here
    · have behind : rest <:+ '\\' :: d :: rest := ⟨['\\', d], rfl⟩
      exact (ih later).trans behind.isInfix

end Glyph

theorem chars_of_isChar {ps : List Regex.Piece} (chars : ∀ piece ∈ ps, Regex.IsChar piece) :
    ∃ text : List Char, ps = text.map .char := by
  induction ps with
  | nil => exact ⟨[], rfl⟩
  | cons piece ps ih =>
    obtain ⟨c, rfl⟩ := chars piece List.mem_cons_self
    obtain ⟨text, rfl⟩ := ih fun piece listed => chars piece (List.mem_cons_of_mem _ listed)
    exact ⟨c :: text, rfl⟩

theorem expand_chars {template text : List Char} (byNumber : Nat → List Char) (byName : List Char → List Char)
    (chars : Regex.pieces template = text.map .char) : Regex.expand byNumber byName template = text := by
  rw [Regex.expand, chars, List.flatMap_map]
  exact List.flatMap_singleton' text

-- A reference shows if every group has matched more than there should be in all.
theorem isChar_of_expand {template text : List Char}
    (filled : ∀ byNumber byName, Regex.expand byNumber byName template = text) :
    ∀ piece ∈ Regex.pieces template, Regex.IsChar piece := by
  intro piece listed
  obtain ⟨before, behind, parts⟩ := List.append_of_mem listed
  have long := congrArg List.length (filled (fun _ => text ++ ['$']) (fun _ => text ++ ['$']))
  rw [Regex.expand, parts, List.flatMap_append, List.flatMap_cons] at long
  cases piece with
  | char c => exact ⟨c, rfl⟩
  | number n | name s =>
    simp at long
    omega

theorem expand_eq_iff (template text : List Char) :
    (∀ byNumber byName, Regex.expand byNumber byName template = text) ↔ Regex.pieces template = text.map .char := by
  constructor
  · intro filled
    obtain ⟨chars, same⟩ := chars_of_isChar (isChar_of_expand filled)
    have text := filled (fun _ => []) (fun _ => [])
    rw [expand_chars _ _ same] at text
    rw [same, text]
  · intro chars byNumber byName
    exact expand_chars byNumber byName chars

-- A replacement without references to groups says what it should, whatever the groups have matched, exactly if none
-- of its escaped dollar signs makes a reference or a pair; nothing in it refers to a group then. Without escaped
-- dollar signs it always does.
theorem expand_templateOf_iff {text : List Char} (plain : Unreferring text) :
    ((∀ byNumber byName, Regex.expand byNumber byName (templateOf text) = unescaped text) ↔
        Glyph.Settled (Glyph.read text)) ∧
      (Glyph.Settled (Glyph.read text) → ∀ piece ∈ Regex.pieces (templateOf text), Regex.IsChar piece) ∧
      (¬['\\', '$'] <:+: text → Glyph.Settled (Glyph.read text)) := by
  have written := templateIn_eq (Nat.le_refl _) plain
  have verbatim : (unescaped text).map Regex.Piece.char = Glyph.verbatim (Glyph.read text) := by
    rw [unescaped_eq, List.map_map]
    rfl
  have settles := (Glyph.pieces_eq_iff (Glyph.read text)).1
  refine ⟨?_, ?_, ?_⟩
  · rw [expand_eq_iff, verbatim, templateOf, written]
    exact settles
  · intro settled piece listed
    rw [templateOf, written, settles.mpr settled] at listed
    exact Glyph.isChar_of_mem_verbatim listed
  · exact fun bare => Glyph.settled_of_notMem fun escaped => bare (Glyph.infix_of_mem_read escaped)

-- An escaped dollar sign in front of a blank, a bare one in front of a digit, and backslashes that are kept.
theorem expand_templateOf_iff_apart :
    let text := ['\\', '$', ' ', '$', '5', '\\', 'g', '\\']
    Unreferring text ∧ Glyph.Settled (Glyph.read text) ∧
      (∀ piece ∈ Regex.pieces (templateOf text), Regex.IsChar piece) ∧
      ∀ byNumber byName, Regex.expand byNumber byName (templateOf text) = ['$', ' ', '$', '5', '\\', 'g', '\\'] := by
  intro text
  have plain : Unreferring text := by
    refine ⟨?_, by decide⟩
    intro d digit here
    simp [text, List.infix_cons_iff] at here
    rcases here with rfl | rfl
    all_goals cases digit
  have settled : Glyph.Settled (Glyph.read text) := by
    simp [text, Glyph.read, ofPair, Glyph.Settled, Glyph.Alone, Regex.StartsReference]
    decide
  have literal : unescaped text = ['$', ' ', '$', '5', '\\', 'g', '\\'] := by simp [text, unescaped, ofPair]
  obtain ⟨filled, chars, -⟩ := expand_templateOf_iff plain
  rw [literal] at filled
  exact ⟨plain, settled, chars settled, filled.mpr settled⟩

-- An escaped dollar sign in front of a digit refers to a group.
theorem expand_templateOf_escaped :
    let text := "\\$1".toList
    Unreferring text ∧ unescaped text = "$1".toList ∧
      Regex.expand (fun _ => ['b']) (fun _ => []) (templateOf text) = "b".toList := by
  intro text
  refine ⟨⟨?_, by decide⟩, by decide, by decide⟩
  intro d digit here
  simp [text, List.infix_cons_iff] at here
  subst here
  cases digit

end NamedOperator
end TreePath
