import TreePath.Proofs.Json.Printing
import TreePath.Proofs.Number.Large
import TreePath.Proofs.Value.Lens
namespace TreePath

namespace Json

-- Neither of two texts goes on as the other does: what is behind them is told from them.
def Apart (text text' : List Char) : Prop :=
  ∀ {rest rest'}, Ended rest → Ended rest' → text ++ rest = text' ++ rest' → text = text' ∧ rest = rest'

-- The text of what is neither in brackets nor in quotation marks.
structure Bare (text : List Char) : Prop where
  nonempty : text ≠ []
  solid : ∀ c ∈ text, isSpace c = false ∧ c ∉ [',', ']', '\x7d', '"', '[', '\x7b']

-- Items with space in front of each and behind the last.
def laid (gap behind : List Char) : List (List Char) → List Char
  | [] => []
  | first :: rest => gap ++ (first ++ (rest.flatMap (fun text => ',' :: (gap ++ text)) ++ behind))

-- What a text starts with, if it is in brackets or quotation marks.
def opening : Value → Option Char
  | .string _ => some '"'
  | .array _ => some '['
  | .object _ => some '\x7b'
  | _ => none

variable {print : Nat → Value → List Char} {space gap behind text text' rest rest' : List Char}
  {texts texts' : List (List Char)} {gaps : Nat → List Char} {level : Nat} {v w : Value} {c : Char}
  {x : Float} {write : Value → List Char} {members members' : List (String × Value)}

theorem Bare.apart (bare : Bare text) (bare' : Bare text') : Apart text text' := by
  intro rest rest' ended ended' same
  let holds (c : Char) : Bool := !(isSpace c || c ∈ [',', ']', '\x7d'])
  have inside : ∀ {text}, Bare text → ∀ c ∈ text, holds c = true := by
    intro text bare c here
    obtain ⟨solid, other⟩ := bare.solid c here
    simp only [List.mem_cons, List.not_mem_nil, or_false, not_or] at other
    simp [holds, solid, other]
  have ends : ∀ {rest}, Ended rest → ∀ c ∈ rest.head?, holds c = false := by
    intro rest ended c here
    rcases ended c here with blank | mark
    · simp [holds, blank]
    · simp only [holds, decide_eq_true mark, Bool.or_true, Bool.not_true]
  constructor
  · rw [← takeWhile_run (inside bare) (ends ended), same, takeWhile_run (inside bare') (ends ended')]
  · rw [← dropWhile_run (inside bare) (ends ended), same, dropWhile_run (inside bare') (ends ended')]

theorem quote_inj {s s' : String} (same : (Value.quote s).toList ++ rest = (Value.quote s').toList ++ rest') :
    s = s' ∧ rest = rest' := by
  rw [toList_quote, toList_quote, List.cons_append, List.cons_append, List.append_assoc, List.append_assoc] at same
  have read : some (s, rest) = some (s', rest') :=
    calc some (s, rest) = readString (s.toList.flatMap Value.escapeChar ++ '"' :: rest) :=
          (readString_quoted (quoted_escaped _)).symm
      _ = readString (s'.toList.flatMap Value.escapeChar ++ '"' :: rest') := congrArg readString (List.cons.inj same).2
      _ = some (s', rest') := readString_quoted (quoted_escaped _)
  exact Prod.mk.inj (Option.some.inj read)

theorem memberText_inj {member member' : String × Value}
    (same : memberText space write member ++ rest = memberText space write member' ++ rest') :
    member.1 = member'.1 ∧ write member.2 ++ rest = write member'.2 ++ rest' := by
  unfold memberText at same
  rw [List.append_assoc, List.append_assoc, List.cons_append, List.cons_append] at same
  obtain ⟨name, later⟩ := quote_inj same
  rw [List.append_assoc, List.append_assoc] at later
  exact ⟨name, List.append_cancel_left (List.cons.inj later).2⟩

theorem memberText_starting {member : String × Value} : Starting (memberText space write member) := by
  unfold memberText
  rw [toList_quote]
  exact ⟨'"', _, rfl, by decide⟩

theorem ended_more (spaced : Blank behind) (closes : c ∈ [']', '\x7d']) :
    Ended (texts.flatMap (fun text => ',' :: (gap ++ text)) ++ (behind ++ c :: rest)) := by
  cases texts with
  | nil =>
    change Ended (behind ++ c :: rest)
    refine ended_spaced spaced fun d here => .inr ?_
    cases here
    exact List.mem_cons_of_mem _ closes
  | cons first texts =>
    intro d here
    cases here
    exact .inr List.mem_cons_self

theorem more_apart (spaced : Blank behind) (closes : c ∈ [']', '\x7d'])
    (each : ∀ text ∈ texts, ∀ text' ∈ texts', Apart text text')
    (same : texts.flatMap (fun text => ',' :: (gap ++ text)) ++ (behind ++ c :: rest) =
      texts'.flatMap (fun text => ',' :: (gap ++ text)) ++ (behind ++ c :: rest')) :
    texts = texts' ∧ rest = rest' := by
  have noComma : ∀ {rest more : List Char}, behind ++ c :: rest ≠ ',' :: more := by
    intro rest more comma
    cases behind with
    | nil =>
      rw [(List.cons.inj comma).1] at closes
      exact absurd closes (by decide)
    | cons d behind =>
      have blank := spaced d List.mem_cons_self
      rw [(List.cons.inj comma).1] at blank
      exact absurd blank (by decide)
  induction texts generalizing texts' with
  | nil =>
    cases texts' with
    | nil => exact ⟨rfl, (List.cons.inj (List.append_cancel_left same)).2⟩
    | cons first' texts' => exact absurd same noComma
  | cons first texts ih =>
    cases texts' with
    | nil => exact absurd same.symm noComma
    | cons first' texts' =>
      simp only [List.flatMap_cons, List.cons_append, List.append_assoc, List.cons.injEq, true_and] at same
      obtain ⟨rfl, later⟩ := each first List.mem_cons_self first' List.mem_cons_self (ended_more spaced closes)
        (ended_more spaced closes) (List.append_cancel_left same)
      obtain ⟨rfl, ends⟩ := ih (fun text here text' here' =>
        each text (List.mem_cons_of_mem _ here) text' (List.mem_cons_of_mem _ here')) later
      exact ⟨rfl, ends⟩

theorem laid_apart (spacedFront : Blank gap) (spaced : Blank behind) (closes : c ∈ [']', '\x7d'])
    (starts : ∀ text ∈ texts, Starting text) (starts' : ∀ text ∈ texts', Starting text)
    (each : ∀ text ∈ texts, ∀ text' ∈ texts', Apart text text')
    (same : laid gap behind texts ++ c :: rest = laid gap behind texts' ++ c :: rest') :
    texts = texts' ∧ rest = rest' := by
  have noClose : ∀ {text rest more : List Char}, Starting text → gap ++ (text ++ more) ≠ c :: rest := by
    rintro _ rest more ⟨d, text, rfl, solid, noBracket, noBrace⟩ close
    have isClose : c = ']' ∨ c = '\x7d' := by simpa using closes
    cases gap with
    | nil => rcases isClose with rfl | rfl <;> exact absurd (List.cons.inj close).1 ‹_›
    | cons e gap =>
      have blank := spacedFront e List.mem_cons_self
      rw [(List.cons.inj close).1] at blank
      rcases isClose with rfl | rfl <;> exact absurd blank (by decide)
  cases texts with
  | nil =>
    cases texts' with
    | nil => exact ⟨rfl, (List.cons.inj same).2⟩
    | cons first' texts' =>
      simp only [laid, List.nil_append, List.append_assoc] at same
      exact absurd same.symm (noClose (starts' first' List.mem_cons_self))
  | cons first texts =>
    cases texts' with
    | nil =>
      simp only [laid, List.nil_append, List.append_assoc] at same
      exact absurd same (noClose (starts first List.mem_cons_self))
    | cons first' texts' =>
      have behindComma : (first :: texts).flatMap (fun text => ',' :: (gap ++ text)) ++ (behind ++ c :: rest) =
          (first' :: texts').flatMap (fun text => ',' :: (gap ++ text)) ++ (behind ++ c :: rest') := by
        simp only [laid, List.append_assoc] at same
        simp only [List.flatMap_cons, List.cons_append, List.append_assoc, same]
      exact more_apart spaced closes each behindComma

-- The characters of numbers.
def Numeric (c : Char) : Prop := c = '-' ∨ c = '.' ∨ CharClass.isDigit c = true

theorem numeric_integer (n : Int64) : ∀ c ∈ (Integer.text n).toList, Numeric c := by
  intro c here
  rw [Integer.toList_text] at here
  rcases List.mem_append.mp here with minus | digit
  · exact .inl (Integer.mem_sign minus)
  · exact .inr (.inr (Integer.isDigit_of_mem_repr _ digit))

theorem numeric_float (finite : x.isFinite = true) :
    (FloatText.json x).toList ≠ [] ∧ ∀ c ∈ (FloatText.json x).toList, Numeric c := by
  by_cases pointed : FloatText.isWhole x = true → FloatText.isModest x = true
  · obtain ⟨negative, whole, fraction, text, nonempty, _, digits, digits', _⟩ :=
      FloatText.readsBack_json finite pointed
    rw [text]
    refine ⟨by simp, fun c here => ?_⟩
    rcases List.mem_append.mp here with minus | here
    · exact .inl (Integer.mem_sign minus)
    rcases List.mem_append.mp here with digit | here
    · exact .inr (.inr (digits c digit))
    rcases List.mem_cons.mp here with point | digit
    · exact .inr (.inl point)
    · exact .inr (.inr (digits' c digit))
  · have large : FloatText.isModest x = false := by
      rw [← Bool.not_eq_true]
      exact (Classical.not_imp.mp pointed).2
    obtain ⟨N, text, _⟩ := FloatText.json_large finite large
    rw [text, FloatText.sign_toList]
    refine ⟨fun none => ?_, fun c here => ?_⟩
    · have noDigits := (List.append_eq_nil_iff.mp none).2
      rw [Nat.toList_repr] at noDigits
      exact Nat.toDigits_ne_nil noDigits
    · rcases List.mem_append.mp here with minus | digit
      · exact .inl (Integer.mem_sign minus)
      · exact .inr (.inr (Integer.isDigit_of_mem_repr N digit))

theorem Numeric.solid (numeric : Numeric c) : isSpace c = false ∧
    c ∉ [',', ']', '\x7d', '"', '[', '\x7b'] ∧ c ∉ ['n', 't', 'f'] := by
  have all : ∀ d ∈ [' ', '\t', '\n', '\r', ',', ']', '\x7d', '"', '[', '\x7b', 'n', 't', 'f'],
      d ≠ '-' ∧ d ≠ '.' ∧ CharClass.isDigit d = false := by
    simp only [List.forall_mem_cons, List.not_mem_nil, false_implies, implies_true, and_true]
    decide
  have other : c ∉ [' ', '\t', '\n', '\r', ',', ']', '\x7d', '"', '[', '\x7b', 'n', 't', 'f'] := by
    intro here
    obtain ⟨noMinus, noPoint, noDigit⟩ := all c here
    rcases numeric with minus | point | digit
    · exact noMinus minus
    · exact noPoint point
    · exact absurd digit (by simp [noDigit])
  simp only [List.mem_cons, List.not_mem_nil, or_false, not_or] at other ⊢
  simp [isSpace, other]

theorem bare_numeric (nonempty : text ≠ []) (numeric : ∀ c ∈ text, Numeric c) : Bare text :=
  ⟨nonempty, fun c here => ⟨(numeric c here).solid.1, (numeric c here).solid.2.1⟩⟩

theorem bare_integer (n : Int64) : Bare (Integer.text n).toList := by
  refine bare_numeric (fun none => ?_) (numeric_integer n)
  obtain ⟨c, more, text, _⟩ := integer_starting n
  rw [none] at text
  cases text

theorem bare_word (word : text ∈ [['n', 'u', 'l', 'l'], ['t', 'r', 'u', 'e'], ['f', 'a', 'l', 's', 'e']]) :
    Bare text := by
  simp only [List.mem_cons, List.not_mem_nil, or_false] at word
  rcases word with rfl | rfl | rfl
  all_goals exact ⟨List.cons_ne_nil _ _, by simp [isSpace]⟩

theorem bare_scalar (plain : opening v = none) : Bare v.scalarText.toList := by
  cases v with
  | null => exact bare_word (.head _)
  | boolean b =>
    cases b with
    | false => exact bare_word (.tail _ (.tail _ (.head _)))
    | true => exact bare_word (.tail _ (.head _))
  | float x =>
    cases finite : x.isFinite with
    | false =>
      have isNull : FloatText.json x = "null" := by simp [FloatText.json, finite]
      rw [Value.scalarText, isNull]
      exact bare_word (.head _)
    | true => exact bare_numeric (numeric_float finite).1 (numeric_float finite).2
  | integer n => exact bare_integer n
  | string | array | object => cases plain

namespace Layout

variable (layout : Layout print space gaps)
include layout

theorem bare (plain : opening v = none) : print level v = v.scalarText.toList := by
  refine layout.scalar level v ?_ ?_
  · rintro first rest rfl
    cases plain
  · rintro first rest rfl
    cases plain

theorem array_laid {items : List Value} : print level (.array items) =
    '[' :: (laid (gaps (level + 1)) (gaps level) (items.map (print (level + 1))) ++ [']']) := by
  cases items with
  | nil =>
    rw [layout.scalar level _ (by simp) (by simp)]
    rfl
  | cons first rest => rw [layout.array, List.map_cons, laid, List.flatMap_map]

theorem object_laid : print level (.object members) = '\x7b' ::
    (laid (gaps (level + 1)) (gaps level) (members.map (memberText space (print (level + 1)))) ++ ['\x7d']) := by
  cases members with
  | nil =>
    rw [layout.scalar level _ (by simp) (by simp)]
    rfl
  | cons first rest => rw [layout.object, List.map_cons, laid, List.flatMap_map]

-- The first character tells what the value is between.
theorem head : ∃ c more, print level v = c :: more ∧ isSpace c = false ∧ c ≠ ']' ∧ c ≠ '\x7d' ∧
    opening v = if c ∈ ['"', '[', '\x7b'] then some c else none := by
  cases isOpening : opening v with
  | none =>
    rw [layout.bare isOpening]
    obtain ⟨nonempty, solid⟩ := bare_scalar isOpening
    obtain ⟨c, more, text⟩ := List.exists_cons_of_ne_nil nonempty
    obtain ⟨noSpace, other⟩ := solid c (text ▸ List.mem_cons_self)
    simp only [List.mem_cons, List.not_mem_nil, or_false, not_or] at other
    exact ⟨c, more, text, noSpace, other.2.1, other.2.2.1, by simp [other]⟩
  | some d =>
    cases v with
    | null | boolean | float | integer => cases isOpening
    | string s =>
      rw [layout.scalar level _ (by simp) (by simp), Value.scalarText, toList_quote]
      cases isOpening
      exact ⟨'"', _, rfl, by decide⟩
    | array items =>
      rw [layout.array_laid]
      cases isOpening
      exact ⟨'[', _, rfl, by decide⟩
    | object members =>
      rw [layout.object_laid]
      cases isOpening
      exact ⟨'\x7b', _, rfl, by decide⟩

theorem starting : Starting (print level v) := by
  obtain ⟨c, more, text, solid, noBracket, noBrace, _⟩ := @head _ _ _ level v layout
  exact ⟨c, more, text, solid, noBracket, noBrace⟩

theorem opening_eq (same : print level v ++ rest = print level w ++ rest') : opening v = opening w := by
  obtain ⟨c, more, text, _, _, _, isOpening⟩ := @head _ _ _ level v layout
  obtain ⟨d, more', text', _, _, _, isOpening'⟩ := @head _ _ _ level w layout
  rw [text, text', List.cons_append, List.cons_append] at same
  rw [isOpening, isOpening', (List.cons.inj same).1]

theorem items_apart {items items' : List Value}
    (each : ∀ item ∈ items, ∀ w, Apart (print (level + 1) item) (print (level + 1) w))
    (same : print level (.array items) ++ rest = print level (.array items') ++ rest') :
    items.map (print (level + 1)) = items'.map (print (level + 1)) ∧ rest = rest' := by
  rw [layout.array_laid, layout.array_laid] at same
  simp only [List.cons_append, List.append_assoc, List.nil_append, List.cons.injEq, true_and] at same
  refine laid_apart (layout.spaced _) (layout.spaced _) (by decide)
    (List.forall_mem_map.mpr fun _ _ => layout.starting) (List.forall_mem_map.mpr fun _ _ => layout.starting)
    (fun text here text' here' => ?_) same
  obtain ⟨item, inside, rfl⟩ := List.mem_map.mp here
  obtain ⟨item', _, rfl⟩ := List.mem_map.mp here'
  exact each item inside item'

theorem members_apart
    (each : ∀ member ∈ members, ∀ w, Apart (print (level + 1) member.2) (print (level + 1) w))
    (same : print level (.object members) ++ rest = print level (.object members') ++ rest') :
    members.map (memberText space (print (level + 1))) = members'.map (memberText space (print (level + 1))) ∧
      rest = rest' := by
  rw [layout.object_laid, layout.object_laid] at same
  simp only [List.cons_append, List.append_assoc, List.nil_append, List.cons.injEq, true_and] at same
  refine laid_apart (layout.spaced _) (layout.spaced _) (by decide)
    (List.forall_mem_map.mpr fun _ _ => memberText_starting) (List.forall_mem_map.mpr fun _ _ => memberText_starting)
    (fun text here text' here' => ?_) same
  intro rest rest' ended ended' same
  obtain ⟨member, inside, rfl⟩ := List.mem_map.mp here
  obtain ⟨member', _, rfl⟩ := List.mem_map.mp here'
  obtain ⟨name, later⟩ := memberText_inj same
  obtain ⟨value, ends⟩ := each member inside member'.2 ended ended' later
  unfold memberText
  rw [name, value]
  exact ⟨rfl, ends⟩

-- No value's text goes on as that of another value.
theorem apart : Apart (print level v) (print level w) := by
  induction v using Value.byParts generalizing w level with
  | null | boolean | float | integer =>
    intro rest rest' ended ended' same
    have isOpening := layout.opening_eq same
    rw [layout.bare rfl, layout.bare isOpening.symm] at same ⊢
    exact (bare_scalar rfl).apart (bare_scalar isOpening.symm) ended ended' same
  | string s =>
    intro rest rest' ended ended' same
    have isOpening := layout.opening_eq same
    cases w with
    | string s' =>
      rw [layout.scalar level _ (by simp) (by simp), layout.scalar level _ (by simp) (by simp)] at same
      obtain ⟨rfl, ends⟩ := quote_inj same
      exact ⟨rfl, ends⟩
    | null | boolean | float | integer | array | object => cases isOpening
  | array items ih =>
    intro rest rest' ended ended' same
    have isOpening := layout.opening_eq same
    cases w with
    | array items' =>
      obtain ⟨parts, ends⟩ := layout.items_apart (fun item here w => ih item here) same
      rw [layout.array_laid, layout.array_laid, parts]
      exact ⟨rfl, ends⟩
    | null | boolean | float | integer | string | object => cases isOpening
  | object members ih =>
    intro rest rest' ended ended' same
    have isOpening := layout.opening_eq same
    cases w with
    | object members' =>
      obtain ⟨parts, ends⟩ := layout.members_apart (fun member here w => ih member here) same
      rw [layout.object_laid, layout.object_laid, parts]
      exact ⟨rfl, ends⟩
    | null | boolean | float | integer | string | array => cases isOpening

omit layout in
theorem lookup_texts {f : Value → List Char} (name : String)
    (same : members.map (memberText space f) = members'.map (memberText space f)) :
    (Value.lookup name members).map f = (Value.lookup name members').map f := by
  induction members generalizing members' with
  | nil =>
    cases members' with
    | nil => rfl
    | cons member' members' => cases same
  | cons member members ih =>
    cases members' with
    | nil => cases same
    | cons member' members' =>
      obtain ⟨text, later⟩ := List.cons.inj same
      have whole : memberText space f member ++ [] = memberText space f member' ++ [] := congrArg (· ++ []) text
      obtain ⟨name', value⟩ := memberText_inj whole
      rw [List.append_nil, List.append_nil] at value
      rw [Value.lookup, Value.lookup, name']
      split
      · exact congrArg some value
      · exact ih later

-- Where the texts of two values are the same, so are the texts of their parts.
theorem child (same : print level w = print level v) (step : Step) :
    (w.child? step).map (print (level + 1)) = (v.child? step).map (print (level + 1)) := by
  have whole : print level w ++ [] = print level v ++ [] := congrArg (· ++ []) same
  have isOpening := layout.opening_eq whole
  cases v with
  | null | boolean | float | integer | string =>
    cases w with
    | null | boolean | float | integer | string => rfl
    | array | object => cases isOpening
  | array items =>
    cases w with
    | array items' =>
      have texts := (layout.items_apart (fun _ _ _ => layout.apart) whole).1
      cases step with
      | member name => rfl
      | element position =>
        rw [Value.child?, Value.child?, ← List.getElem?_map, ← List.getElem?_map, texts]
    | null | boolean | float | integer | string | object => cases isOpening
  | object members =>
    cases w with
    | object members' =>
      have texts := (layout.members_apart (fun _ _ _ => layout.apart) whole).1
      cases step with
      | member name => exact lookup_texts name texts
      | element position => rfl
    | null | boolean | float | integer | string | array => cases isOpening

theorem resolve (same : print level w = print level v) (location : Location) :
    (w.resolve? location).map (print (level + location.length)) =
      (v.resolve? location).map (print (level + location.length)) := by
  induction location generalizing v w level with
  | nil => exact congrArg some same
  | cons step location ih =>
    have parts := layout.child same step
    rw [Value.resolve?_cons, Value.resolve?_cons]
    have deeper : level + (step :: location).length = level + 1 + location.length := by
      rw [List.length_cons]
      omega
    rw [deeper]
    cases inner : v.child? step with
    | none =>
      rw [inner, Option.map_none, Option.map_eq_none_iff] at parts
      rw [parts]
    | some part =>
      rw [inner, Option.map_some, Option.map_eq_some_iff] at parts
      obtain ⟨part', inner', text⟩ := parts
      rw [inner', Option.bind_some, Option.bind_some]
      exact ih text

end Layout
end Json
end TreePath
