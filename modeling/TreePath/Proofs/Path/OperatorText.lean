import TreePath.Path.OperatorReader
import TreePath.Path.Text
import TreePath.Proofs.Path.Shape
import TreePath.Proofs.Text.Pieces
import TreePath.Proofs.Token.Words
namespace TreePath

-- A text that stands between backticks as it is: the lexer takes a backslash away, and a backtick for the
-- closing one.
def Verbatim (text : String) : Prop := '`' ∉ text.toList ∧ '\\' ∉ text.toList

-- Operators whose text is read as them. A template is rewritten when it is read, and written as rewritten, so
-- it has to hold nothing that would be rewritten again; and it must not look as if the pattern went on.
def NamedOperator.Restorable : NamedOperator → Prop
  | sub pattern template => Verbatim pattern.source ∧ Verbatim template ∧ '$' ∉ template.toList ∧
    ¬['/', ','] <:+: template.toList ∧ ∀ c ∈ template.toList.head?, CharClass.isBlank c = false
  | split separator _ _ => Verbatim separator
  | _ => True

variable {before after separator text : List Char} {c last : Char} {n : Int64}

namespace Pieces

theorem cut?_char (absent : c ∉ before) : cut? [c] (before ++ c :: after) = some (before, after) := by
  apply cut?_first (List.cons_ne_nil _ _)
  simpa [First, List.singleton_infix_iff] using absent

theorem cut?_absent (absent : c ∉ text) : cut? [c] text = none := by
  simpa [cut?_none_iff, List.singleton_infix_iff] using absent

theorem cutLast?_char (absent : c ∉ after) : cutLast? [c] (before ++ c :: after) = some (before, after) := by
  apply cutLast?_last (List.cons_ne_nil _ _)
  simpa [List.singleton_infix_iff] using absent

theorem cutLast?_slash (absent : ¬['/', ','] <:+: after) :
    cutLast? ['/', ','] (before ++ '/' :: ',' :: after) = some (before, after) := by
  apply cutLast?_last (List.cons_ne_nil _ _)
  simpa [List.infix_cons_iff] using absent

theorem dropLast?_last : dropLast? last (text ++ [last]) = some text := by
  simp [dropLast?]

theorem trimStart_blank (solid : ∀ c ∈ text.head?, CharClass.isBlank c = false) : trimStart (' ' :: text) = text := by
  have space : CharClass.isBlank ' ' = true := by decide
  rw [trimStart, List.dropWhile_cons_of_pos space]
  cases text with
  | nil => rfl
  | cons c text => exact List.dropWhile_cons_of_neg (by simp [solid c rfl])

theorem trimStart_solid (solid : ∀ c ∈ text.head?, CharClass.isBlank c = false) : trimStart text = text := by
  cases text with
  | nil => rfl
  | cons c text => exact List.dropWhile_cons_of_neg (by simp [solid c rfl])

theorem trimEnd_solid (solid : ∀ c ∈ text, CharClass.isBlank c = false) : trimEnd text = text := by
  have back : trimStart text.reverse = text.reverse :=
    trimStart_solid fun c here => solid c (List.mem_reverse.mp (List.mem_of_mem_head? here))
  exact (congrArg List.reverse back).trans text.reverse_reverse

theorem trim_solid (solid : ∀ c ∈ text, CharClass.isBlank c = false) : trim text = text := by
  have front : trimStart text = text := trimStart_solid fun c here => solid c (List.mem_of_mem_head? here)
  rw [trim, front, trimEnd_solid solid]

theorem trim_blank (solid : ∀ c ∈ text, CharClass.isBlank c = false) : trim (' ' :: text) = text := by
  have front : trimStart (' ' :: text) = text := trimStart_blank fun c here => solid c (List.mem_of_mem_head? here)
  rw [trim, front, trimEnd_solid solid]

end Pieces

theorem Integer.mem_text (here : c ∈ (Integer.text n).toList) : c = '-' ∨ CharClass.isDigit c = true := by
  rcases Integer.text_cases n with ⟨m, _, same⟩ | ⟨m, _, same⟩
  · rw [same] at here
    exact .inr (Integer.isDigit_of_mem_repr m here)
  · rw [same] at here
    rcases List.mem_cons.mp here with sign | here
    · exact .inl sign
    · exact .inr (Integer.isDigit_of_mem_repr (m + 1) here)

-- Numbers, bounds and selectors are made of digits, hyphens and colons.
def isSelectorChar (c : Char) : Bool := CharClass.isDigit c || c == '-' || c == ':'

theorem isBlank_of_isSelectorChar (here : isSelectorChar c = true) : CharClass.isBlank c = false := by
  simp only [isSelectorChar, Bool.or_eq_true, beq_iff_eq] at here
  rcases here with (digit | rfl) | rfl
  · exact CharClass.isBlank_of_isDigit digit
  · decide
  · decide

theorem selectorChar_of_mem_text (here : c ∈ (Integer.text n).toList) : isSelectorChar c = true := by
  rcases Integer.mem_text here with rfl | digit
  · decide
  · simp [isSelectorChar, digit]

theorem selectorChar_of_mem_bound {bound : Option Int64} (here : c ∈ (boundText bound).toList) :
    isSelectorChar c = true := by
  cases bound with
  | none => cases here
  | some n => exact selectorChar_of_mem_text here

theorem selectorChar_of_mem {selector : Selector} (here : c ∈ selector.text.toList) : isSelectorChar c = true := by
  cases selector with
  | piece i => exact selectorChar_of_mem_text here
  | range start stop =>
    simp only [Selector.text, String.toList_append, List.mem_append] at here
    rcases here with (here | colon) | here
    · exact selectorChar_of_mem_bound here
    · cases List.mem_singleton.mp colon
      decide
    · exact selectorChar_of_mem_bound here

theorem colon_not_mem_text : ':' ∉ (Integer.text n).toList := by
  intro here
  rcases Integer.mem_text here with same | digit
  · exact absurd same (by decide)
  · exact absurd digit (by decide)

theorem colon_not_mem_bound {bound : Option Int64} : ':' ∉ (boundText bound).toList := by
  cases bound with
  | none => exact List.not_mem_nil
  | some n => exact colon_not_mem_text

theorem Integer.readDigits?_repr (m : Nat) : Integer.readDigits? m.repr.toList = some m := by
  have nonempty : m.repr.toList ≠ [] := by
    rw [Nat.toList_repr]
    exact Nat.toDigits_ne_nil
  have digits : m.repr.toList.all CharClass.isDigit = true :=
    List.all_eq_true.mpr fun _ => Integer.isDigit_of_mem_repr m
  rw [Integer.readDigits?, if_pos ⟨nonempty, digits⟩, Integer.ofDigits_repr]

theorem Integer.read?_text (n : Int64) : Integer.read? (Integer.text n).toList = some n := by
  have fits := Integer.ofInt?_toInt n
  rcases Integer.text_cases n with ⟨m, value, same⟩ | ⟨m, value, same⟩
  · have back := Integer.readDigits?_repr m
    have digits : ∀ d ∈ m.repr.toList, CharClass.isDigit d = true := fun _ => Integer.isDigit_of_mem_repr m
    rw [value] at fits
    rw [same]
    unfold Integer.read?
    split
    · rename_i spelled
      exact absurd (digits '-' (spelled ▸ List.mem_cons_self)) (by decide)
    · rename_i spelled
      exact absurd (digits '+' (spelled ▸ List.mem_cons_self)) (by decide)
    · rw [back]
      exact fits
  · have negated : -((m + 1 : Nat) : Int) = .negSucc m := rfl
    rw [value, ← negated] at fits
    rw [same, Integer.read?, Integer.readDigits?_repr, Option.bind_some]
    exact fits

theorem Pattern.ofSource_source (p : Pattern) : Pattern.ofSource p.source = .ok p := by
  unfold Pattern.ofSource
  split
  · exact congrArg Except.ok (Pattern.eq_of_source_eq rfl)
  · rename_i fault
    cases p.reads.symm.trans fault

namespace NamedOperator
open Grammar (bind_of_ok)

theorem readBound_text {whole : List Char} (bound : Option Int64) :
    readBound whole (boundText bound).toList = .ok bound := by
  cases bound with
  | none => rfl
  | some n =>
    have back := Integer.read?_text n
    have nonempty : (Integer.text n).toList ≠ [] := by
      intro none
      rw [none] at back
      cases back
    unfold readBound boundText
    rw [if_neg nonempty, back]

theorem readSelector_text (selector : Selector) : readSelector selector.text.toList = .ok selector := by
  cases selector with
  | piece i =>
    have noColon : Pieces.cut? [':'] (Selector.piece i).text.toList = none :=
      Pieces.cut?_absent colon_not_mem_text
    have back : readBound (Integer.text i).toList (Integer.text i).toList = .ok (some i) := readBound_text (some i)
    unfold readSelector
    rw [noColon]
    dsimp only [Selector.text]
    rw [bind_of_ok back]
    rfl
  | range start stop =>
    have colon : Pieces.cut? [':'] (Selector.range start stop).text.toList =
        some ((boundText start).toList, (boundText stop).toList) := by
      simpa [Selector.text] using @Pieces.cut?_char (boundText start).toList (boundText stop).toList ':'
        colon_not_mem_bound
    have trimmed : ∀ bound, Pieces.trim (boundText bound).toList = (boundText bound).toList :=
      fun bound => Pieces.trim_solid fun c here => isBlank_of_isSelectorChar (selectorChar_of_mem_bound here)
    unfold readSelector
    rw [colon]
    dsimp only
    rw [trimmed, trimmed, bind_of_ok (readBound_text start), bind_of_ok (readBound_text stop)]
    rfl

theorem templateOf_plain {template : List Char} (noDollar : '$' ∉ template) (noEscape : '\\' ∉ template) :
    templateOf template = template := by
  unfold templateOf
  induction template with
  | nil => rfl
  | cons c template ih =>
    rw [List.mem_cons, not_or] at noDollar noEscape
    rw [List.length_cons]
    unfold templateIn
    rw [if_neg (Ne.symm noDollar.1), if_pos (Ne.symm noEscape.1), ih noDollar.2 noEscape.2]

theorem readSub_text {pattern : Pattern} {template : String} (restorable : (sub pattern template).Restorable) :
    readSub ('/' :: (pattern.source.toList ++ '/' :: ',' :: ' ' :: template.toList)) =
      .ok (sub pattern template) := by
  obtain ⟨_, verbatim, noDollar, apart, solid⟩ := restorable
  have absent : ¬['/', ','] <:+: ' ' :: template.toList := by
    rintro ⟨front, back, same⟩
    cases front with
    | nil => cases same
    | cons c front => exact apart ⟨front, back, (List.cons.inj same).2⟩
  simp only [readSub, Pieces.cutLast?_slash absent]
  rw [String.ofList_toList, Pattern.ofSource_source, Pieces.trimStart_blank solid,
    templateOf_plain noDollar verbatim.2, String.ofList_toList]

theorem readSplit_text {separator : String} {selector : Selector} {limit : Int64} (nonempty : separator ≠ "") :
    readSplit (separator.toList ++ ',' :: ' ' :: (selector.text.toList ++ ',' :: ' ' :: (Integer.text limit).toList)) =
      .ok (split separator selector limit) := by
  have noLimit : ',' ∉ ' ' :: (Integer.text limit).toList := by
    rw [List.mem_cons, not_or]
    exact ⟨by decide, fun here => absurd (selectorChar_of_mem_text here) (by decide)⟩
  have noSelector : ',' ∉ ' ' :: selector.text.toList := by
    rw [List.mem_cons, not_or]
    exact ⟨by decide, fun here => absurd (selectorChar_of_mem here) (by decide)⟩
  have front : ∀ rest, separator.toList ++ ',' :: ' ' :: (selector.text.toList ++ rest) =
      (separator.toList ++ ',' :: ' ' :: selector.text.toList) ++ rest := by simp
  have some : separator.toList ≠ [] := fun none =>
    nonempty (String.toList_inj.mp (none.trans String.toList_empty.symm))
  unfold readSplit
  rw [front, Pieces.cutLast?_char noLimit]
  dsimp only
  rw [Pieces.cutLast?_char noSelector]
  dsimp only
  rw [if_neg some, Pieces.trim_blank fun c here => isBlank_of_isSelectorChar (selectorChar_of_mem_text here),
    Integer.read?_text]
  dsimp only
  rw [Pieces.trim_blank fun c here => isBlank_of_isSelectorChar (selectorChar_of_mem here),
    bind_of_ok (readSelector_text selector), String.ofList_toList]
  rfl

-- An operator with arguments, and none of the names of those without.
theorem read?_parts {name text : String} {arguments : List Char} (isName : name = "sub" ∨ name = "split")
    (spelled : text.toList = name.toList ++ '(' :: arguments ++ [')']) : read? text =
      if name = "sub" then some (readSub arguments)
      else if name = "split" then some (readSplit arguments)
      else if name = "str" then some (.error .strArguments)
      else none := by
  have noParen : '(' ∉ name.toList := by
    rcases isName with rfl | rfl
    all_goals decide
  have apart : text ≠ "len" ∧ text ≠ "keys" ∧ text ≠ "sorted" ∧ text ≠ "str()" := by
    refine ⟨?_, ?_, ?_, ?_⟩
    all_goals
      rintro rfl
      rcases isName with rfl | rfl
      all_goals simp at spelled
  unfold read?
  rw [if_neg apart.1, if_neg apart.2.1, if_neg apart.2.2.1, if_neg apart.2.2.2, spelled, Pieces.dropLast?_last,
    Option.bind_some, Pieces.cut?_char noParen, Option.bind_some]
  dsimp only
  rw [String.ofList_toList]

-- The text of an operator is read as the operator.
theorem read?_text {operator : NamedOperator} (valid : operator.Valid) (restorable : operator.Restorable) :
    read? operator.text = some (.ok operator) := by
  cases operator with
  | len | keys | sorted | str => rfl
  | sub pattern template =>
    have spelled : (sub pattern template).text.toList = "sub".toList ++
        '(' :: ('/' :: (pattern.source.toList ++ '/' :: ',' :: ' ' :: template.toList)) ++ [')'] := by
      simp [text]
    rw [read?_parts (.inl rfl) spelled, if_pos rfl, readSub_text restorable]
  | split separator selector limit =>
    have spelled : (split separator selector limit).text.toList = "split".toList ++ '(' :: (separator.toList ++
        ',' :: ' ' :: (selector.text.toList ++ ',' :: ' ' :: (Integer.text limit).toList)) ++ [')'] := by
      simp [text]
    rw [read?_parts (.inr rfl) spelled, if_neg (by decide), if_pos rfl, readSplit_text valid]

-- Between backticks the text of an operator stands as it is.
theorem text_verbatim {operator : NamedOperator} (restorable : operator.Restorable) : Verbatim operator.text := by
  have outside : ∀ c, isSelectorChar c = false → (∀ selector : Selector, c ∉ selector.text.toList) ∧
      ∀ n : Int64, c ∉ (Integer.text n).toList := by
    intro c other
    constructor
    · exact fun selector here => by simp [selectorChar_of_mem here] at other
    · exact fun n here => by simp [selectorChar_of_mem_text here] at other
  cases operator with
  | len | keys | sorted | str => exact ⟨by decide, by decide⟩
  | sub pattern template =>
    obtain ⟨source, verbatim, _⟩ := restorable
    exact ⟨by simp [text, source.1, verbatim.1], by simp [text, source.2, verbatim.2]⟩
  | split separator selector limit =>
    have quote := outside '`' (by decide)
    have escape := outside '\\' (by decide)
    exact ⟨by simp [text, restorable.1, quote.1, quote.2], by simp [text, restorable.2, escape.1, escape.2]⟩

end NamedOperator
end TreePath
