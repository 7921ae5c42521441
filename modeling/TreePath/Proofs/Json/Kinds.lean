import TreePath.Proofs.Json.Apart
namespace TreePath

namespace Value

-- Whether every double of the tree is a number and no infinity.
def IsFinite (v : Value) : Prop := ∀ location x, v.resolve? location = some (.float x) → x.isFinite = true

-- Whether both trees have the same locations, and parts of one kind at each.
def SameKinds (v w : Value) : Prop := ∀ location, (w.resolve? location).map kind = (v.resolve? location).map kind

-- A double and an integer that have one text.
def Blurred (x : Float) (n : Int64) : Prop := x.isFinite = true ∧ FloatText.json x = Integer.text n

variable {v w a b tree after part value : Value} {location place : Location} {step : Step} {name : String}
  {members : List (String × Value)}

theorem json_resolve (same : w.json = v.json) (location : Location) :
    (w.resolve? location).map json = (v.resolve? location).map json := by
  have texts := @Json.Layout.resolve _ _ _ 0 v w Json.json_layout (congrArg String.toList same) location
  have inside : ∀ o : Option Value, o.map (fun v => v.json.toList) = (o.map json).map String.toList := by
    intro o
    rw [Option.map_map]
    rfl
  rw [inside, inside] at texts
  exact Option.map_injective (fun _ _ => String.toList_inj.mp) texts

theorem number_ne_word {s word : String} (numeric : ∀ c ∈ s.toList, Json.Numeric c)
    (isWord : word ∈ ["null", "true", "false"]) : s ≠ word := by
  rintro rfl
  have letter : ∃ c ∈ s.toList, c ∈ ['n', 't', 'f'] := by
    simp only [List.mem_cons, List.not_mem_nil, or_false] at isWord
    rcases isWord with rfl | rfl | rfl
    · exact ⟨'n', .head _, by decide⟩
    · exact ⟨'t', .head _, by decide⟩
    · exact ⟨'f', .head _, by decide⟩
  obtain ⟨c, here, letter⟩ := letter
  exact (numeric c here).solid.2.2 letter

theorem word_boolean (c : Bool) : (boolean c).json ∈ ["null", "true", "false"] := by
  cases c with
  | false => exact .tail _ (.tail _ (.head _))
  | true => exact .tail _ (.head _)

theorem opening_of_json (same : b.json = a.json) : Json.opening b = Json.opening a := by
  refine @Json.Layout.opening_eq _ _ [] [] _ 0 b a Json.json_layout ?_
  rw [same]

-- Only a double and an integer can have one text and be of different kinds.
theorem kind_of_json (same : b.json = a.json) (finite : a.IsFinite) (finite' : b.IsFinite) :
    b.kind = a.kind ∨ (∃ x n, a = .float x ∧ b = .integer n ∧ Blurred x n) ∨
      ∃ x n, a = .integer n ∧ b = .float x ∧ Blurred x n := by
  have isOpening := opening_of_json same
  cases a with
  | null =>
    cases b with
    | null => exact .inl rfl
    | boolean c => cases c <;> exact absurd same (by decide)
    | float x => exact absurd same (number_ne_word (Json.numeric_float (finite' [] x rfl)).2 (.head _))
    | integer n => exact absurd same (number_ne_word (Json.numeric_integer n) (.head _))
    | string | array | object => cases isOpening
  | boolean c =>
    cases b with
    | null => cases c <;> exact absurd same (by decide)
    | boolean d => exact .inl rfl
    | float x => exact absurd same (number_ne_word (Json.numeric_float (finite' [] x rfl)).2 (word_boolean c))
    | integer n => exact absurd same (number_ne_word (Json.numeric_integer n) (word_boolean c))
    | string | array | object => cases isOpening
  | float x =>
    have isFinite := finite [] x rfl
    cases b with
    | null => exact absurd same.symm (number_ne_word (Json.numeric_float isFinite).2 (.head _))
    | boolean c => exact absurd same.symm (number_ne_word (Json.numeric_float isFinite).2 (word_boolean c))
    | float y => exact .inl rfl
    | integer n => exact .inr (.inl ⟨x, n, rfl, rfl, isFinite, same.symm⟩)
    | string | array | object => cases isOpening
  | integer n =>
    cases b with
    | null => exact absurd same.symm (number_ne_word (Json.numeric_integer n) (.head _))
    | boolean c => exact absurd same.symm (number_ne_word (Json.numeric_integer n) (word_boolean c))
    | float x => exact .inr (.inr ⟨x, n, rfl, rfl, finite' [] x rfl, same⟩)
    | integer k => exact .inl rfl
    | string | array | object => cases isOpening
  | string s =>
    cases b with
    | string t => exact .inl rfl
    | null | boolean | float | integer | array | object => cases isOpening
  | array items =>
    cases b with
    | array items' => exact .inl rfl
    | null | boolean | float | integer | string | object => cases isOpening
  | object members =>
    cases b with
    | object members' => exact .inl rfl
    | null | boolean | float | integer | string | array => cases isOpening

theorem isFinite_integer (n : Int64) : (Value.integer n).IsFinite := by
  intro location x found
  cases location with
  | nil => cases found
  | cons step location => cases found

theorem isFinite_float {x : Float} (finite : x.isFinite = true) : (Value.float x).IsFinite := by
  intro location y found
  cases location with
  | nil =>
    cases found
    exact finite
  | cons step location => cases found

theorem IsFinite.resolve (finite : v.IsFinite) (found : v.resolve? location = some part) : part.IsFinite := by
  intro place x reached
  refine finite (location ++ place) x ?_
  rw [resolve?_append, found]
  exact reached

theorem IsFinite.write (finite : tree.IsFinite) (single : value.IsFinite)
    (written : tree.write? location value = some after) : after.IsFinite := by
  intro place x found
  by_cases below : location <+: place
  · obtain ⟨suffix, rfl⟩ := below
    rw [resolve?_write?_below written] at found
    exact single suffix x found
  by_cases above : place <+: location
  · have proper : place ≠ location := by
      rintro rfl
      exact below (List.prefix_refl _)
    obtain ⟨shape, _, kept⟩ := shape?_write?_above written above proper
    rw [found] at kept
    cases kept
  · rw [resolve?_write?_apart written below above] at found
    exact finite place x found

theorem texts_insertMember {write : Value → List Char} (found : lookup name members = some part)
    (same : write value = write part) : (insertMember name value members).map (Json.memberText [] write) =
      members.map (Json.memberText [] write) := by
  induction members with
  | nil => cases found
  | cons member members ih =>
    obtain ⟨key, old⟩ := member
    rw [lookup] at found
    rw [insertMember]
    split at found
    · rename_i here
      cases found
      rw [if_pos here, List.map_cons, List.map_cons, Json.memberText, same]
      rfl
    · rename_i elsewhere
      rw [if_neg elsewhere, List.map_cons, List.map_cons, ih found]

theorem json_setChild? (changed : tree.setChild? step value = some after) (found : tree.child? step = some part)
    (same : value.json = part.json) : after.json = tree.json := by
  have text : value.json.toList = part.json.toList := congrArg String.toList same
  rw [← String.toList_inj]
  cases tree <;> cases step <;> simp only [setChild?, reduceCtorEq] at changed
  case array.element items position =>
    obtain ⟨inside, isPart⟩ := List.getElem?_eq_some_iff.mp found
    rw [if_pos inside] at changed
    cases changed
    have texts : (items.set position value).map (fun v => v.json.toList) = items.map fun v => v.json.toList := by
      rw [List.map_set, text, ← List.map_set, ← isPart, List.set_getElem_self]
    have laid := fun items => @Json.Layout.array_laid _ _ _ 0 Json.json_layout items
    rw [laid, laid, texts]
  case object.member members name =>
    change lookup name members = some part at found
    rw [found] at changed
    cases changed
    have laid := fun members => @Json.Layout.object_laid _ _ _ 0 members Json.json_layout
    rw [laid, laid, texts_insertMember found text]

theorem json_write? (written : tree.write? location value = some after)
    (found : tree.resolve? location = some part) (same : value.json = part.json) : after.json = tree.json := by
  induction location generalizing tree after with
  | nil =>
    cases written
    cases found
    exact same
  | cons step location ih =>
    obtain ⟨below, changed, reached, inner, outer⟩ := write?_cons_parts written
    rw [resolve?_cons, reached] at found
    exact json_setChild? outer reached (ih inner found)

theorem exists_blurred (finite : v.IsFinite) (found : v.resolve? location = some a) (single : b.IsFinite)
    (same : b.json = a.json) (other : b.kind ≠ a.kind) : ∃ w, w.IsFinite ∧ w.json = v.json ∧ ¬v.SameKinds w := by
  obtain ⟨w, written⟩ := write?_isSome b found
  refine ⟨w, finite.write single written, json_write? written found same, fun alike => other ?_⟩
  have kinds := alike location
  rw [resolve?_write?_self written, found] at kinds
  exact Option.some.inj kinds

end Value

-- The text of a tree tells the kinds of all its parts exactly where no double of it is from 10 ^ 16 up to the
-- end of the integers in magnitude, and no integer of it from 10 ^ 16 has the text of a double.
theorem Value.json_kinds_iff (v : Value) (finite : v.IsFinite) :
    (∀ w : Value, w.IsFinite → w.json = v.json → v.SameKinds w) ↔
      (∀ location x, v.resolve? location = some (.float x) →
        (BinaryParts.ofFloat x).floor < 10 ^ 16 ∨ 2 ^ 63 ≤ (BinaryParts.ofFloat x).floor) ∧
      ∀ location n, v.resolve? location = some (.integer n) → 10 ^ 16 ≤ n.toInt.natAbs →
        ∀ x : Float, x.isFinite = true → FloatText.json x ≠ Integer.text n := by
  constructor
  · intro tells
    refine ⟨fun location x found => ?_, fun location n found _ x isFinite same => ?_⟩
    · have isFinite := finite location x found
      by_contra large
      obtain ⟨n, same⟩ := FloatText.text_of_large isFinite (by omega) (by omega)
      obtain ⟨w, finite', text, apart⟩ :=
        exists_blurred finite found (isFinite_integer n) same.symm (by simp [kind])
      exact apart (tells w finite' text)
    · obtain ⟨w, finite', text, apart⟩ :=
        exists_blurred finite found (isFinite_float isFinite) same (by simp [kind])
      exact apart (tells w finite' text)
  · rintro ⟨floats, integers⟩ w finite' same location
    have texts := json_resolve same location
    cases found : v.resolve? location with
    | none =>
      rw [found, Option.map_none, Option.map_eq_none_iff] at texts
      rw [texts]
    | some a =>
      rw [found, Option.map_some, Option.map_eq_some_iff] at texts
      obtain ⟨b, found', text⟩ := texts
      rw [found', Option.map_some, Option.map_some, Option.some_inj]
      rcases kind_of_json text (finite.resolve found) (finite'.resolve found') with
        kind | ⟨x, n, rfl, rfl, isFinite, one⟩ | ⟨x, n, rfl, rfl, isFinite, one⟩
      · exact kind
      · have large := (FloatText.large_of_text isFinite one).1
        have apart := floats location x found
        omega
      · exact absurd one (integers location n found (FloatText.large_of_text isFinite one).2 x isFinite)

-- Three and three, which are written as 3.0 and 3.
theorem Value.json_kinds_iff_three :
    let v : Value := .array [.float 3, .integer 3]
    v.json = "[3.0,3]" ∧ v.IsFinite ∧ ∀ w : Value, w.IsFinite → w.json = v.json → v.SameKinds w := by
  intro v
  have parts : ∀ location part, v.resolve? location = some part →
      part = v ∨ part = .float 3 ∨ part = .integer 3 := by
    intro location part found
    match location, found with
    | [], found => exact .inl (Option.some.inj found).symm
    | [.element 0], found => exact .inr (.inl (Option.some.inj found).symm)
    | [.element 1], found => exact .inr (.inr (Option.some.inj found).symm)
  have finite : v.IsFinite := by
    intro location x found
    rcases parts location _ found with whole | three | three
    · simp [v] at whole
    · cases three
      decide +kernel
    · cases three
  refine ⟨by decide +kernel, finite, (Value.json_kinds_iff v finite).mpr ⟨?_, ?_⟩⟩
  · intro location x found
    rcases parts location _ found with whole | three | three
    · simp [v] at whole
    · cases three
      exact .inl (by decide +kernel)
    · cases three
  · intro location n found large
    rcases parts location _ found with whole | three | three
    · simp [v] at whole
    · cases three
    · cases three
      exact absurd large (by decide)

theorem Value.json_blurred :
    let v : Value := .float 1e16
    let w : Value := .integer 10000000000000000
    v.IsFinite ∧ w.IsFinite ∧ w.json = v.json ∧ ¬v.SameKinds w := by
  refine ⟨isFinite_float (by decide +kernel), isFinite_integer _, by decide +kernel, fun same => ?_⟩
  have kinds := same []
  simp [kind] at kinds

end TreePath
