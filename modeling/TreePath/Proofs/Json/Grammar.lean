import Mathlib.Tactic.IntervalCases
import TreePath.Json.Reader
import TreePath.Proofs.Token.Words
namespace TreePath

mutual
-- How many containers stand inside one another.
def Value.depth : Value → Nat
  | .array items => Value.itemsDepth items + 1
  | .object members => Value.membersDepth members + 1
  | _ => 0

def Value.itemsDepth : List Value → Nat
  | [] => 0
  | item :: rest => max (Value.depth item) (Value.itemsDepth rest)

def Value.membersDepth : List (String × Value) → Nat
  | [] => 0
  | (_, value) :: rest => max (Value.depth value) (Value.membersDepth rest)
end

namespace Json

def Document.depth (document : Document) : Nat := document.toValue.depth

-- JSON texts as a judgment, as far as they have no fraction and no exponent. What is written stands
-- between white space of any length, a character of a string may be written by any of its escapes, and
-- an object has each name once.
def Blank (text : List Char) : Prop := ∀ c ∈ text, isSpace c = true

inductive CodeUnit : Nat → List Char → Prop where
  | digits (a b c d : Char) (i j k l : Nat) (first : CodeRanges.hexDigit? a = some i)
      (second : CodeRanges.hexDigit? b = some j) (third : CodeRanges.hexDigit? c = some k)
      (fourth : CodeRanges.hexDigit? d = some l) :
      CodeUnit (((i * 16 + j) * 16 + k) * 16 + l) [a, b, c, d]

def escapes : List (Char × Char) :=
  [('"', '"'), ('\\', '\\'), ('/', '/'), ('b', '\x08'), ('f', '\x0c'), ('n', '\n'), ('r', '\r'), ('t', '\t')]

inductive Spelled : Char → List Char → Prop where
  | plain (c : Char) (printable : 32 ≤ c.toNat) (noQuote : c ≠ '"') (noEscape : c ≠ '\\') : Spelled c [c]
  | escape (letter c : Char) (known : (letter, c) ∈ escapes) : Spelled c ['\\', letter]
  | unit (code : Nat) (digits : List Char) (read : CodeUnit code digits)
      (whole : code < 0xD800 ∨ 0xE000 ≤ code) : Spelled (Char.ofNat code) ('\\' :: 'u' :: digits)
  | pair (high low : Nat) (digits others : List Char) (readHigh : CodeUnit high digits)
      (readLow : CodeUnit low others) (isHigh : 0xD800 ≤ high ∧ high < 0xDC00)
      (isLow : 0xDC00 ≤ low ∧ low < 0xE000) :
      Spelled (Char.ofNat (0x10000 + (high - 0xD800) * 1024 + (low - 0xDC00)))
        ('\\' :: 'u' :: (digits ++ '\\' :: 'u' :: others))

inductive Quoted : List Char → List Char → Prop where
  | nil : Quoted [] []
  | cons (c : Char) (said text rest : List Char) (spelled : Spelled c text) (later : Quoted said rest) :
      Quoted (c :: said) (text ++ rest)

inductive Listed {α : Type} (writes : α → List Char → Prop) : List α → List Char → Prop where
  | last (item : α) (before text behind : List Char) (spaced : Blank before) (written : writes item text)
      (spacedBehind : Blank behind) : Listed writes [item] (before ++ (text ++ behind))
  | more (item : α) (items : List α) (before text behind others : List Char) (spaced : Blank before)
      (written : writes item text) (spacedBehind : Blank behind) (later : Listed writes items others) :
      Listed writes (item :: items) (before ++ (text ++ (behind ++ ',' :: others)))

inductive Member (writes : Document → List Char → Prop) : String × Document → List Char → Prop where
  | named (name : String) (value : Document) (spelled before behind text : List Char)
      (quoted : Quoted name.toList spelled) (spaced : Blank before) (spacedBehind : Blank behind)
      (written : writes value text) :
      Member writes (name, value) ('"' :: (spelled ++ '"' :: (before ++ ':' :: (behind ++ text))))

inductive Written : Document → List Char → Prop where
  | null : Written .null "null".toList
  | boolean (b : Bool) : Written (.boolean b) (toString b).toList
  | integer (n : Int64) : Written (.number (.ofInteger n)) (Integer.text n).toList
  | string (s : String) (spelled : List Char) (quoted : Quoted s.toList spelled) :
      Written (.string s) ('"' :: (spelled ++ ['"']))
  | noItems (space : List Char) (spaced : Blank space) : Written (.array []) ('[' :: (space ++ [']']))
  | array (items : List Document) (text : List Char) (listed : Listed Written items text) :
      Written (.array items) ('[' :: (text ++ [']']))
  | noMembers (space : List Char) (spaced : Blank space) :
      Written (.object []) ('\x7b' :: (space ++ ['\x7d']))
  | object (members : List (String × Document)) (text : List Char)
      (unique : (members.map Prod.fst).Nodup) (listed : Listed (Member Written) members text) :
      Written (.object members) ('\x7b' :: (text ++ ['\x7d']))

-- A reader of texts that knows this much of JSON: it gives the document that is written, whatever else
-- it accepts, refuses or makes of other texts.
def Conforms (read : String → Option Document) : Prop :=
  ∀ (document : Document) (before text behind : List Char), Blank before → Written document text →
    Blank behind → document.depth < 128 →
    read (String.ofList (before ++ (text ++ behind))) = some document

variable {α : Type} {writes : α → List Char → Prop} {element : Reader Document} {document value item : Document}
  {member : String × Document} {items : List Document} {members read : List (String × Document)}
  {text rest before behind said digits : List Char} {c : Char} {depth turns code : Nat} {name : String}

-- What stands behind a value in a text; a number does not go on with it.
def Ended (rest : List Char) : Prop := ∀ c ∈ rest.head?, isSpace c = true ∨ c ∈ [',', ']', '\x7d']

theorem ended_spaced (spaced : Blank behind) (ended : Ended rest) : Ended (behind ++ rest) := by
  cases behind with
  | nil => exact ended
  | cons c behind =>
    intro d here
    cases here
    exact .inl (spaced c List.mem_cons_self)

theorem skipSpace_spaced (spaced : Blank before) (solid : ∀ c ∈ rest.head?, isSpace c = false) :
    skipSpace (before ++ rest) = rest := dropWhile_run spaced solid

theorem Ended.no_digit (ended : Ended rest) (here : c ∈ rest.head?) :
    CharClass.isDigit c = false ∧ c ≠ '.' ∧ c ≠ 'e' ∧ c ≠ 'E' := by
  have known : ∀ d ∈ [' ', '\t', '\n', '\r', ',', ']', '\x7d'],
      CharClass.isDigit d = false ∧ d ≠ '.' ∧ d ≠ 'e' ∧ d ≠ 'E' := by
    simp only [List.forall_mem_cons, List.not_mem_nil, false_implies, implies_true, and_true]
    decide
  apply known
  rcases ended c here with space | mark
  · simp only [isSpace, Bool.or_eq_true, beq_iff_eq] at space
    rcases space with ((rfl | rfl) | rfl) | rfl
    all_goals decide
  · exact List.mem_append_right [' ', '\t', '\n', '\r'] mark

theorem readFraction_ended (ended : Ended rest) : readFraction rest = some (none, rest) := by
  cases rest with
  | nil => rfl
  | cons c rest =>
    obtain ⟨_, noPoint, _⟩ := ended.no_digit (c := c) rfl
    unfold readFraction
    split
    · rename_i same
      cases same
      exact absurd rfl noPoint
    · rfl

theorem readExponent_ended (ended : Ended rest) : readExponent rest = some (none, rest) := by
  cases rest with
  | nil => rfl
  | cons c rest =>
    obtain ⟨_, _, noSmall, noLarge⟩ := ended.no_digit (c := c) rfl
    exact if_neg (by simp [noSmall, noLarge])

-- Only zero itself is written with a zero in front.
theorem leading_digit {n : Nat} (positive : 0 < n) :
    ∃ first others, n.repr.toList = first :: others ∧ first ≠ '0' := by
  rw [Nat.toList_repr]
  induction n using Nat.strong_induction_on with
  | h n ih =>
    by_cases small : n < 10
    · refine ⟨n.digitChar, [], Nat.toDigits_of_lt_base small, ?_⟩
      interval_cases n <;> decide
    · obtain ⟨first, others, digits, nonzero⟩ := ih (n / 10) (by omega) (by omega)
      refine ⟨first, others ++ [(n % 10).digitChar], ?_, nonzero⟩
      rw [Nat.toDigits_of_base_le (by decide) (by omega), digits, List.cons_append]

-- The number behind its sign, if there is one.
theorem readNumberText_signed (negative : Bool) (noSign : c ≠ '-') :
    readNumberText ((if negative then ['-'] else []) ++ c :: text) =
      match (c :: text).takeWhile CharClass.isDigit with
      | [] => none
      | first :: others =>
        if first = '0' ∧ others ≠ [] then none
        else (readFraction ((c :: text).dropWhile CharClass.isDigit)).bind fun part =>
          (readExponent part.2).map fun last =>
            (⟨negative, (c :: text).takeWhile CharClass.isDigit, part.1, last.1⟩, last.2) := by
  cases negative with
  | true => rfl
  | false =>
    rw [if_neg Bool.false_ne_true, List.nil_append]
    unfold readNumberText
    split
    rename_i found
    split at found
    · rename_i same
      cases same
      exact absurd rfl noSign
    · cases found
      rfl

theorem readNumberText_digits (n : Nat) (negative : Bool) (ended : Ended rest) :
    readNumberText ((if negative then ['-'] else []) ++ (n.repr.toList ++ rest)) =
      some (⟨negative, n.repr.toList, none, none⟩, rest) := by
  have inside := fun c here => Integer.isDigit_of_mem_repr (c := c) n here
  have ends : ∀ c ∈ rest.head?, CharClass.isDigit c = false := fun c here => (ended.no_digit here).1
  have whole := takeWhile_run inside ends
  have behind := dropWhile_run inside ends
  obtain ⟨first, others, digits, single⟩ : ∃ first others, n.repr.toList = first :: others ∧
      ¬(first = '0' ∧ others ≠ []) := by
    rcases Nat.eq_zero_or_pos n with rfl | positive
    · exact ⟨'0', [], rfl, by simp⟩
    · obtain ⟨first, others, digits, nonzero⟩ := leading_digit positive
      exact ⟨first, others, digits, fun zero => nonzero zero.1⟩
  have noSign : first ≠ '-' := by
    rintro rfl
    exact absurd (inside '-' (by rw [digits]; exact List.mem_cons_self)) (by decide)
  rw [digits, List.cons_append] at whole behind
  rw [digits, List.cons_append, readNumberText_signed negative noSign, whole, behind]
  dsimp only
  rw [if_neg single, readFraction_ended ended, Option.bind_some, readExponent_ended ended, Option.map_some]

theorem readNumberText_integer (n : Int64) (ended : Ended rest) :
    ∃ parts, readNumberText ((Integer.text n).toList ++ rest) = some (parts, rest) ∧
      parts.number? = some (.ofInteger n) := by
  have low := Int64.le_toInt n
  have high := Int64.toInt_lt n
  have fits := Integer.ofInt?_toInt n
  unfold Integer.text
  cases value : n.toInt with
  | ofNat k =>
    refine ⟨_, readNumberText_digits k false ended, ?_⟩
    rw [value, Int.ofNat_eq_natCast] at high
    have small : k < Nat.pow 2 64 := by
      change k < 18446744073709551616
      omega
    have unsigned : Number.ofInteger n = .unsigned (UInt64.ofNat k) := by
      rw [Number.ofInteger, dif_neg (by rw [value]; exact Int.not_lt.mpr (Int.natCast_nonneg k)), value]
      rfl
    unfold NumberText.number?
    dsimp only
    rw [Integer.ofDigits_repr, if_neg Bool.false_ne_true, if_pos small, unsigned]
  | negSucc k =>
    have below : n.toInt < 0 := by
      rw [value]
      exact Int.negSucc_lt_zero k
    rw [value, show Int.negSucc k = -((k + 1 : Nat) : Int) from rfl] at fits
    refine ⟨⟨true, (k + 1).repr.toList, none, none⟩, ?_, ?_⟩
    · rw [Integer.textOfInt, String.toList_append, List.append_assoc]
      exact readNumberText_digits (k + 1) true ended
    · unfold NumberText.number?
      dsimp only
      rw [Integer.ofDigits_repr, if_pos rfl]
      rw [fits]
      dsimp only
      rw [dif_pos below, Number.ofInteger, dif_pos below]

theorem readUnit_digits (written : CodeUnit code digits) : readUnit (digits ++ rest) = some (code, rest) := by
  cases written with
  | digits a b c d i j k l first second third fourth =>
    simp only [readUnit, List.cons_append, List.nil_append, first, second, third, fourth, Option.bind_eq_bind,
      Option.bind_some]
    rfl

-- A character that is written plainly, or by what stands behind a backslash.
theorem spelled_parts (spelled : Spelled c text) :
    text = [c] ∧ 32 ≤ c.toNat ∧ c ≠ '"' ∧ c ≠ '\\' ∨
      ∃ escaped, text = '\\' :: escaped ∧ ∀ rest, readEscape (escaped ++ rest) = some (c, rest) := by
  cases spelled with
  | plain _ printable noQuote noEscape => exact .inl ⟨rfl, printable, noQuote, noEscape⟩
  | escape letter _ known =>
    refine .inr ⟨[letter], rfl, fun rest => ?_⟩
    simp only [escapes, List.mem_cons, Prod.mk.injEq, List.not_mem_nil, or_false] at known
    rcases known with ⟨rfl, rfl⟩ | ⟨rfl, rfl⟩ | ⟨rfl, rfl⟩ | ⟨rfl, rfl⟩ | ⟨rfl, rfl⟩ | ⟨rfl, rfl⟩ |
      ⟨rfl, rfl⟩ | ⟨rfl, rfl⟩
    all_goals rfl
  | unit code digits read whole =>
    refine .inr ⟨'u' :: digits, rfl, fun rest => ?_⟩
    change readEscapedUnit (digits ++ rest) = _
    have noHigh : ¬(0xD800 ≤ code ∧ code < 0xDC00) := by omega
    have noLow : ¬(0xDC00 ≤ code ∧ code < 0xE000) := by omega
    simp only [readEscapedUnit, readUnit_digits read, Option.bind_eq_bind, Option.bind_some, if_neg noHigh,
      if_neg noLow]
    rfl
  | pair high low digits others readHigh readLow isHigh isLow =>
    refine .inr ⟨'u' :: (digits ++ '\\' :: 'u' :: others), rfl, fun rest => ?_⟩
    change readEscapedUnit ((digits ++ '\\' :: 'u' :: others) ++ rest) = _
    rw [List.append_assoc]
    simp only [readEscapedUnit, readUnit_digits readHigh, List.cons_append, Option.bind_eq_bind, Option.bind_some,
      if_pos isHigh, readUnit_digits readLow, if_pos isLow]
    rfl

theorem readStringBody_quoted (quoted : Quoted said text) (enough : text.length < turns) (read : List Char) :
    readStringBody turns (text ++ '"' :: rest) read = some (String.ofList (read.reverse ++ said), rest) := by
  induction quoted generalizing turns read with
  | nil =>
    cases turns with
    | zero => cases enough
    | succ turns =>
      rw [List.append_nil]
      rfl
  | cons c said text more spelled later ih =>
    cases turns with
    | zero => cases enough
    | succ turns =>
      rw [List.length_append] at enough
      have further := fun shorter => @ih turns shorter (c :: read)
      rw [List.reverse_cons, List.append_assoc] at further
      rcases spelled_parts spelled with ⟨rfl, printable, noQuote, noEscape⟩ | ⟨escaped, rfl, escape⟩
      · rw [List.singleton_append, List.cons_append, readStringBody, if_neg noQuote, if_neg noEscape,
          if_neg (by omega)]
        exact further (by simp only [List.length_singleton] at enough; omega)
      · rw [List.cons_append, List.cons_append, readStringBody, if_neg (by decide), if_pos rfl,
          List.append_assoc, escape]
        exact further (by simp only [List.length_cons] at enough; omega)

theorem readString_quoted {s : String} (quoted : Quoted s.toList text) :
    readString (text ++ '"' :: rest) = some (s, rest) := by
  have read : readStringBody (text ++ '"' :: rest).length (text ++ '"' :: rest) [] =
      some (String.ofList ([].reverse ++ s.toList), rest) := readStringBody_quoted quoted (by simp) []
  rw [List.reverse_nil, List.nil_append, String.ofList_toList] at read
  exact read

-- The first character of a value or a member: neither space nor what would close the list.
def Starting (text : List Char) : Prop :=
  ∃ c more, text = c :: more ∧ isSpace c = false ∧ c ≠ ']' ∧ c ≠ '\x7d'

theorem skipSpace_mark (spaced : Blank before) (solid : isSpace c = false) :
    skipSpace (before ++ c :: rest) = c :: rest := skipSpace_spaced spaced (by simpa using solid)

theorem skipSpace_starting (spaced : Blank before) (starting : Starting text) :
    skipSpace (before ++ (text ++ rest)) = text ++ rest := by
  obtain ⟨c, more, rfl, solid, _⟩ := starting
  exact skipSpace_mark spaced solid

theorem integer_starting (n : Int64) : ∃ c more, (Integer.text n).toList = c :: more ∧
    (c = '-' ∨ CharClass.isDigit c = true) := by
  have digits : ∀ n : Nat, ∃ c more, n.repr.toList = c :: more ∧ CharClass.isDigit c = true := by
    intro n
    cases run : n.repr.toList with
    | nil =>
      rw [Nat.toList_repr] at run
      exact absurd run Nat.toDigits_ne_nil
    | cons c more => exact ⟨c, more, rfl, Integer.isDigit_of_mem_repr n (by rw [run]; exact List.mem_cons_self)⟩
  unfold Integer.text
  cases n.toInt with
  | ofNat k =>
    obtain ⟨c, more, run, digit⟩ := digits k
    exact ⟨c, more, run, .inr digit⟩
  | negSucc k => exact ⟨'-', (k + 1).repr.toList, String.toList_append, .inl rfl⟩

theorem not_mem_of_numeric (numeric : c = '-' ∨ CharClass.isDigit c = true) :
    c ∉ [' ', '\t', '\n', '\r', '"', '[', ']', 'f', 'n', 't', '\x7b', '\x7d'] := by
  intro here
  have none : ∀ d ∈ [' ', '\t', '\n', '\r', '"', '[', ']', 'f', 'n', 't', '\x7b', '\x7d'],
      d ≠ '-' ∧ CharClass.isDigit d = false := by
    simp only [List.forall_mem_cons, List.not_mem_nil, false_implies, implies_true, and_true]
    decide
  rcases numeric with minus | digit
  · exact (none c here).1 minus
  · exact absurd digit (by simp [(none c here).2])

theorem Written.starting (written : Written document text) : Starting text := by
  cases written with
  | null => exact ⟨'n', _, rfl, by decide⟩
  | boolean b => cases b with
    | false => exact ⟨'f', _, rfl, by decide⟩
    | true => exact ⟨'t', _, rfl, by decide⟩
  | integer n =>
    obtain ⟨c, more, run, numeric⟩ := integer_starting n
    have other := not_mem_of_numeric numeric
    simp only [List.mem_cons, List.not_mem_nil, or_false, not_or] at other
    exact ⟨c, more, run, by simp [isSpace, other], by simp [other], by simp [other]⟩
  | string | noItems | array | noMembers | object => exact ⟨_, _, rfl, by decide⟩

theorem Member.starting (written : Member Written member text) : Starting text := by
  cases written with
  | named => exact ⟨'"', _, rfl, by decide⟩

theorem blank_nil : Blank [] := fun _ here => absurd here List.not_mem_nil

-- A list without the space in front of it.
theorem Listed.unspaced {items : List α} (listed : Listed writes items text)
    (starts : ∀ item text, writes item text → Starting text) :
    ∃ trimmed, Starting trimmed ∧ Listed writes items trimmed ∧
      ∀ rest, skipSpace (text ++ rest) = trimmed ++ rest := by
  cases listed with
  | last item before text behind spaced written spacedBehind =>
    have starting := starts item text written
    refine ⟨text ++ behind, ?_, .last item [] text behind blank_nil written spacedBehind, fun rest => ?_⟩
    · obtain ⟨c, more, rfl, solid⟩ := starting
      exact ⟨c, more ++ behind, rfl, solid⟩
    · rw [List.append_assoc, List.append_assoc, skipSpace_starting spaced starting]
  | more item items before text behind others spaced written spacedBehind later =>
    have starting := starts item text written
    refine ⟨text ++ (behind ++ ',' :: others), ?_,
      .more item items [] text behind others blank_nil written spacedBehind later, fun rest => ?_⟩
    · obtain ⟨c, more, rfl, solid⟩ := starting
      exact ⟨c, _, rfl, solid⟩
    · rw [List.append_assoc, List.append_assoc, skipSpace_starting spaced starting]

theorem ended_mark (spaced : Blank behind) (mark : c ∈ [',', ']', '\x7d']) : Ended (behind ++ c :: rest) := by
  refine ended_spaced spaced ?_
  intro d here
  cases here
  exact .inr mark

-- One turn reads one element, and the comma or bracket behind it.
theorem readItems_item (mark : c = ',' ∨ c = ']')
    (spaced : Blank before) (starting : Starting text) (spacedBehind : Blank behind)
    (reads : ∀ rest, Ended rest → element (text ++ rest) = some (item, rest)) :
    readItems element (turns + 1) items (before ++ (text ++ (behind ++ c :: rest))) =
      if c = ',' then readItems element turns (item :: items) rest else some ((item :: items).reverse, rest) := by
  have ended : Ended (behind ++ c :: rest) := ended_mark spacedBehind (by rcases mark with rfl | rfl <;> decide)
  rw [readItems, skipSpace_starting spaced starting, reads _ ended]
  simp only [Option.bind_eq_bind, Option.bind_some]
  rcases mark with rfl | rfl
  all_goals
    rw [skipSpace_mark spacedBehind (by decide)]
    rfl

theorem readItems_listed (listed : Listed Written items text)
    (reads : ∀ item ∈ items, ∀ text rest, Written item text → Ended rest →
      element (text ++ rest) = some (item, rest))
    (enough : text.length < turns) (read : List Document) :
    readItems element turns read (text ++ ']' :: rest) = some (read.reverse ++ items, rest) := by
  induction listed generalizing turns read with
  | last item before text behind spaced written spacedBehind =>
    cases turns with
    | zero => cases enough
    | succ turns =>
      rw [List.append_assoc, List.append_assoc, readItems_item (.inr rfl) spaced written.starting spacedBehind
        fun rest => reads item List.mem_cons_self text rest written, if_neg (by decide), List.reverse_cons]
  | more item items before text behind others spaced written spacedBehind later ih =>
    cases turns with
    | zero => cases enough
    | succ turns =>
      have further : readItems element turns (item :: read) (others ++ ']' :: rest) =
          some ((item :: read).reverse ++ items, rest) :=
        ih (fun item here => reads item (List.mem_cons_of_mem _ here))
          (by simp only [List.length_append, List.length_cons] at enough; omega) (item :: read)
      rw [List.append_assoc, List.append_assoc, List.append_assoc, List.cons_append,
        readItems_item (.inl rfl) spaced written.starting spacedBehind
        fun rest => reads item List.mem_cons_self text rest written, if_pos rfl, further]
      simp

theorem insertMember_new (fresh : name ∉ members.map Prod.fst) :
    Document.insertMember name value members = members ++ [(name, value)] := by
  induction members with
  | nil => rfl
  | cons member members ih =>
    obtain ⟨key, old⟩ := member
    rw [List.map_cons, List.mem_cons, not_or] at fresh
    rw [Document.insertMember, if_neg (Ne.symm fresh.1), ih fresh.2]
    rfl

theorem fresh_of_unique (unique : ((read ++ member :: members).map Prod.fst).Nodup) :
    member.1 ∉ read.map Prod.fst := by
  rw [List.map_append, List.nodup_append] at unique
  exact fun here => unique.2.2 _ here _ (by simp) rfl

-- One turn reads one member: its name, a colon and its value, and the comma or brace behind it.
theorem readMembers_member (mark : c = ',' ∨ c = '\x7d') (fresh : member.1 ∉ members.map Prod.fst)
    (spaced : Blank before) (written : Member Written member text) (spacedBehind : Blank behind)
    (reads : ∀ text rest, Written member.2 text → Ended rest → element (text ++ rest) = some (member.2, rest)) :
    readMembers element (turns + 1) members (before ++ (text ++ (behind ++ c :: rest))) =
      if c = ',' then readMembers element turns (members ++ [member]) rest
      else some (members ++ [member], rest) := by
  have ended : Ended (behind ++ c :: rest) := ended_mark spacedBehind (by rcases mark with rfl | rfl <;> decide)
  rw [readMembers, skipSpace_starting spaced written.starting]
  cases written with
  | named name value spelled before gap said quoted spacedName spacedGap written =>
    have named : readString (spelled ++ '"' :: (before ++ ':' :: (gap ++ (said ++ (behind ++ c :: rest))))) =
      some (name, _) := readString_quoted quoted
    simp only [List.cons_append, List.append_assoc, named, Option.bind_eq_bind, Option.bind_some,
      skipSpace_mark (c := ':') spacedName (by decide)]
    rw [skipSpace_starting spacedGap written.starting, reads said _ written ended]
    simp only [Option.bind_some]
    rcases mark with rfl | rfl
    all_goals
      rw [skipSpace_mark spacedBehind (by decide), insertMember_new fresh]
      rfl

theorem readMembers_listed (listed : Listed (Member Written) members text)
    (reads : ∀ member ∈ members, ∀ text rest, Written member.2 text → Ended rest →
      element (text ++ rest) = some (member.2, rest))
    (enough : text.length < turns) (unique : ((read ++ members).map Prod.fst).Nodup) :
    readMembers element turns read (text ++ '\x7d' :: rest) = some (read ++ members, rest) := by
  induction listed generalizing turns read with
  | last member before text behind spaced written spacedBehind =>
    cases turns with
    | zero => cases enough
    | succ turns =>
      rw [List.append_assoc, List.append_assoc, readMembers_member (.inr rfl) (fresh_of_unique unique) spaced written
        spacedBehind (reads member List.mem_cons_self), if_neg (by decide)]
  | more member members before text behind others spaced written spacedBehind later ih =>
    cases turns with
    | zero => cases enough
    | succ turns =>
      have further : readMembers element turns (read ++ [member]) (others ++ '\x7d' :: rest) =
          some (read ++ [member] ++ members, rest) :=
        ih (fun member here => reads member (List.mem_cons_of_mem _ here))
          (by simp only [List.length_append, List.length_cons] at enough; omega) (by simpa using unique)
      rw [List.append_assoc, List.append_assoc, List.append_assoc, List.cons_append,
        readMembers_member (.inl rfl) (fresh_of_unique unique) spaced written spacedBehind
        (reads member List.mem_cons_self), if_pos rfl, further]
      simp

theorem depth_of_mem_items (here : item ∈ items) :
    item.depth ≤ Value.itemsDepth (Document.itemsToValues items) := by
  induction items with
  | nil => cases here
  | cons first items ih =>
    rw [Document.itemsToValues, Value.itemsDepth]
    rcases List.mem_cons.mp here with rfl | later
    · exact Nat.le_max_left _ _
    · exact Nat.le_trans (ih later) (Nat.le_max_right _ _)

theorem depth_of_mem_members (here : member ∈ members) :
    member.2.depth ≤ Value.membersDepth (Document.membersToValues members) := by
  induction members with
  | nil => cases here
  | cons first members ih =>
    rw [Document.membersToValues, Value.membersDepth]
    rcases List.mem_cons.mp here with rfl | later
    · exact Nat.le_max_left _ _
    · exact Nat.le_trans (ih later) (Nat.le_max_right _ _)

theorem readValue_number (numeric : c = '-' ∨ CharClass.isDigit c = true) : readValue depth (c :: text) =
    (readNumberText (c :: text)).bind fun parts => parts.1.number?.map fun number => (.number number, parts.2) := by
  have other := not_mem_of_numeric numeric
  simp only [List.mem_cons, List.not_mem_nil, or_false, not_or] at other
  unfold readValue
  split
  case h_7 =>
    cases readNumberText (c :: text) with
    | none => rfl
    | some parts =>
      simp only [Option.bind_eq_bind, Option.bind_some]
      cases parts.1.number? with
      | none => rfl
      | some number => rfl
  all_goals
    rename_i same
    cases same
    simp at other

theorem readValue_items (solid : skipSpace text = said ++ rest) (starting : Starting said) :
    readValue (depth + 1) ('[' :: text) = (readItems (readValue depth) (said ++ rest).length [] (said ++ rest)).map
      fun parts => (.array parts.1, parts.2) := by
  obtain ⟨c, more, rfl, _, noClosing, _⟩ := starting
  rw [readValue]
  simp only [solid]
  split
  · rename_i same
    cases same
    exact absurd rfl noClosing
  · rfl

theorem readValue_members (solid : skipSpace text = said ++ rest) (starting : Starting said) :
    readValue (depth + 1) ('\x7b' :: text) =
      (readMembers (readValue depth) (said ++ rest).length [] (said ++ rest)).map
        fun parts => (.object parts.1, parts.2) := by
  obtain ⟨c, more, rfl, _, _, noClosing⟩ := starting
  rw [readValue]
  simp only [solid]
  split
  · rename_i same
    cases same
    exact absurd rfl noClosing
  · rfl

theorem depth_array : (Document.array items).depth = Value.itemsDepth (Document.itemsToValues items) + 1 := by
  rw [Document.depth, Document.toValue, Value.depth]

theorem depth_object :
    (Document.object members).depth = Value.membersDepth (Document.membersToValues members) + 1 := by
  rw [Document.depth, Document.toValue, Value.depth]

-- By the levels that are left: what a container holds is read with one level less.
theorem readValue_written (written : Written document text) (shallow : document.depth ≤ depth) (ended : Ended rest) :
    readValue depth (text ++ rest) = some (document, rest) := by
  induction depth using Nat.strong_induction_on generalizing document text rest with
  | h depth ih =>
    cases written with
    | null =>
      unfold readValue
      rfl
    | boolean b =>
      unfold readValue
      cases b with
      | false => rfl
      | true => rfl
    | integer n =>
      obtain ⟨c, more, run, numeric⟩ := integer_starting n
      obtain ⟨parts, taken, number⟩ := readNumberText_integer n ended
      rw [run, List.cons_append] at taken
      rw [run, List.cons_append, readValue_number numeric, taken, Option.bind_some, number]
      rfl
    | string s spelled quoted =>
      rw [List.cons_append, List.append_assoc, List.singleton_append]
      unfold readValue
      simp only [readString_quoted quoted]
      rfl
    | noItems space spaced =>
      rw [depth_array] at shallow
      obtain ⟨below, rfl⟩ := Nat.exists_eq_succ_of_ne_zero (Nat.ne_zero_of_lt shallow)
      rw [List.cons_append, List.append_assoc, List.singleton_append]
      unfold readValue
      simp only [skipSpace_mark (c := ']') spaced (by decide)]
    | array items text listed =>
      rw [depth_array] at shallow
      obtain ⟨below, rfl⟩ := Nat.exists_eq_succ_of_ne_zero (Nat.ne_zero_of_lt shallow)
      have reads : ∀ item ∈ items, ∀ text rest, Written item text → Ended rest →
          readValue below (text ++ rest) = some (item, rest) := fun item here text rest written =>
        ih below (Nat.lt_succ_self _) written
          (Nat.le_trans (depth_of_mem_items here) (Nat.le_of_succ_le_succ shallow))
      obtain ⟨trimmed, starting, listed, trim⟩ := listed.unspaced fun _ _ => Written.starting
      rw [List.cons_append, List.append_assoc, List.singleton_append, readValue_items (trim _) starting,
        readItems_listed listed reads (by simp) []]
      rfl
    | noMembers space spaced =>
      rw [depth_object] at shallow
      obtain ⟨below, rfl⟩ := Nat.exists_eq_succ_of_ne_zero (Nat.ne_zero_of_lt shallow)
      rw [List.cons_append, List.append_assoc, List.singleton_append]
      unfold readValue
      simp only [skipSpace_mark (c := '\x7d') spaced (by decide)]
    | object members text unique listed =>
      rw [depth_object] at shallow
      obtain ⟨below, rfl⟩ := Nat.exists_eq_succ_of_ne_zero (Nat.ne_zero_of_lt shallow)
      have reads : ∀ member ∈ members, ∀ text rest, Written member.2 text → Ended rest →
          readValue below (text ++ rest) = some (member.2, rest) := fun member here text rest written =>
        ih below (Nat.lt_succ_self _) written
          (Nat.le_trans (depth_of_mem_members here) (Nat.le_of_succ_le_succ shallow))
      obtain ⟨trimmed, starting, listed, trim⟩ := listed.unspaced fun _ _ => Member.starting
      have read : readMembers (readValue below) (trimmed ++ '\x7d' :: rest).length [] (trimmed ++ '\x7d' :: rest) =
          some ([] ++ members, rest) := readMembers_listed listed reads (by simp) unique
      rw [List.cons_append, List.append_assoc, List.singleton_append, readValue_members (trim _) starting, read]
      rfl

-- The reader at hand conforms.
theorem read?_conforms : Conforms Document.read? := by
  intro document before text behind spaced written spacedBehind shallow
  have trailing : skipSpace behind = [] := by
    have ends : skipSpace (behind ++ []) = [] := skipSpace_spaced spacedBehind (by simp)
    rwa [List.append_nil] at ends
  have ended : Ended behind := by
    have ended : Ended (behind ++ []) := ended_spaced spacedBehind (fun c here => by cases here)
    rwa [List.append_nil] at ended
  have read : readValue maxDepth (text ++ behind) = _ := readValue_written written (Nat.le_of_lt_succ shallow) ended
  unfold Document.read?
  rw [String.toList_ofList, skipSpace_starting spaced written.starting, read]
  exact if_pos trailing

end Json
end TreePath
