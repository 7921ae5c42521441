import Mathlib.Data.List.FinRange
import TreePath.Proofs.Selection.Keys
import TreePath.Proofs.Sorting.Pivots
namespace TreePath
open Ordering

-- The order of values of one kind.
inductive Value.Less : Value → Value → Prop where
  | integer {m n : Int64} (less : m.toInt < n.toInt) : Less (.integer m) (.integer n)
  | string {s t : String} (less : s < t) : Less (.string s) (.string t)
  | boolean : Less (.boolean false) (.boolean true)

-- Values that are all integers, all texts or all truths.
def Uniform (values : List Value) : Prop :=
  (∀ value ∈ values, ∃ n, value = .integer n) ∨ (∀ value ∈ values, ∃ s, value = .string s) ∨
    ∀ value ∈ values, ∃ p, value = .boolean p

-- A key that finds something in every element, and the same kind of values.
def SortKey.Covers (labels : Option String) (key : SortKey) (items : List Value) : Prop :=
  ∃ values, items.map (key.value? labels) = values.map some ∧ Uniform values

-- An element that comes before another one by what a key finds in both.
def SortKey.Before (labels : Option String) (key : SortKey) (a b : Value) : Prop :=
  ∃ x y, key.value? labels a = some x ∧ key.value? labels b = some y ∧
    match key.direction with
    | .ascending => x.Less y
    | .descending => y.Less x

-- The same by the first key that tells them apart.
def BeforeByKeys (labels : Option String) : List SortKey → Value → Value → Prop
  | [], _, _ => False
  | key :: keys, a, b =>
    key.Before labels a b ∨ key.value? labels a = key.value? labels b ∧ BeforeByKeys labels keys a b

variable {labels : Option String} {key : SortKey} {keys : List SortKey} {items : List Value} {a b c x y : Value}

-- The library sort gives the elements in order unless they are compared with contradictions.
theorem Sorting.sort?_sorted {α : Type} (order : α → α → Ordering) (elements : List α) :
    Gives (Weak order elements) (sort? order elements) (SortedFor order elements) := by
  unfold sort?
  split
  · exact .pure (.sort order elements)
  · exact sortLong_sorted order elements

-- Texts and integers are equal, and so the two ends of a merge may not meet.
example : Sorting.sort? Value.order ([.integer 5, .integer 4] ++ List.replicate 8 (.string "x") ++
    List.replicate 11 (.integer 1)) = none := rfl

theorem Sorting.arrange_perm {α : Type} (order : α → α → Ordering) (elements : List α) :
    (arrange order elements).Perm elements := by
  unfold arrange
  cases found : sort? order elements with
  | none => exact .refl _
  | some sorted => exact ((sort?_sorted order elements).good sorted found).perm

theorem Sorting.arrange_weak {α : Type} {order : α → α → Ordering} {elements : List α} (weak : Weak order elements) :
    arrange order elements = sort order elements := by
  have sorts := sort?_sorted order elements
  obtain ⟨sorted, found⟩ := sorts.given weak
  unfold arrange
  rw [found]
  exact (sorts.good sorted found).weak weak

theorem Sorting.decorated_snd {β : Type} (keysOf : Value → β) (elements : List Value) :
    (elements.map fun element => (keysOf element, element)).map Prod.snd = elements := by
  rw [List.map_map]
  exact List.map_id elements

theorem Sorting.sortByKeys_perm {directions : List Direction} {keysOf : Value → List KeyValue} :
    (sortByKeys directions keysOf items).Perm items := by
  have kept := decorated_snd keysOf items
  unfold sortByKeys
  exact ((arrange_perm ..).map Prod.snd).trans (.of_eq kept)

-- Two values of one kind.
inductive Value.Alike : Value → Value → Prop where
  | integers (m n : Int64) : Alike (.integer m) (.integer n)
  | strings (s t : String) : Alike (.string s) (.string t)
  | booleans (p q : Bool) : Alike (.boolean p) (.boolean q)

theorem Uniform.alike {values : List Value} (uniform : Uniform values) (first : x ∈ values) (second : y ∈ values) :
    x.Alike y := by
  rcases uniform with integers | strings | booleans
  · obtain ⟨m, rfl⟩ := integers x first
    obtain ⟨n, rfl⟩ := integers y second
    exact .integers m n
  · obtain ⟨s, rfl⟩ := strings x first
    obtain ⟨t, rfl⟩ := strings y second
    exact .strings s t
  · obtain ⟨p, rfl⟩ := booleans x first
    obtain ⟨q, rfl⟩ := booleans y second
    exact .booleans p q

namespace Value.Alike

theorem order_lt (alike : x.Alike y) : x.order y = .lt ↔ x.Less y := by
  cases alike with
  | integers m n =>
    refine (order_integers m n).eq_lt.trans ⟨.integer, ?_⟩
    rintro ⟨less⟩
    exact less
  | strings s t =>
    refine (compareText_compares s t).eq_lt.trans ⟨.string, ?_⟩
    rintro ⟨⟩
    assumption
  | booleans p q =>
    cases p with
    | false =>
      cases q with
      | false => exact iff_of_false (by decide) nofun
      | true => exact iff_of_true rfl .boolean
    | true => cases q <;> exact iff_of_false (by decide) nofun

theorem order_eq (alike : x.Alike y) : x.order y = .eq ↔ x = y := by
  cases alike with
  | integers m n =>
    refine (order_integers m n).eq_eq.trans ⟨fun same => congrArg Value.integer (Int64.toInt_inj.mp same), ?_⟩
    rintro ⟨⟩
    rfl
  | strings s t =>
    refine (compareText_compares s t).eq_eq.trans ⟨congrArg Value.string, ?_⟩
    rintro ⟨⟩
    rfl
  | booleans p q =>
    refine (compareBool_compares p q).eq_eq.trans ⟨congrArg Value.boolean, ?_⟩
    rintro ⟨⟩
    rfl

theorem symm (alike : x.Alike y) : y.Alike x := by
  cases alike with
  | integers m n => exact .integers n m
  | strings s t => exact .strings t s
  | booleans p q => exact .booleans q p

end Value.Alike

namespace SortKey.Covers

theorem found (covers : key.Covers labels items) (first : a ∈ items) (second : b ∈ items) :
    ∃ x y, key.value? labels a = some x ∧ key.value? labels b = some y ∧ x.Alike y := by
  obtain ⟨values, same, uniform⟩ := covers
  have each : ∀ c ∈ items, ∃ z ∈ values, key.value? labels c = some z := by
    intro c listed
    have there : key.value? labels c ∈ values.map some := same ▸ List.mem_map_of_mem listed
    obtain ⟨z, isValue, isFound⟩ := List.mem_map.mp there
    exact ⟨z, isValue, isFound.symm⟩
  obtain ⟨x, isFirst, foundFirst⟩ := each a first
  obtain ⟨y, isSecond, foundSecond⟩ := each b second
  exact ⟨x, y, foundFirst, foundSecond, uniform.alike isFirst isSecond⟩

theorem order_lt (covers : key.Covers labels items) (first : a ∈ items) (second : b ∈ items) :
    keyedOrder labels [key] a b = .lt ↔ key.Before labels a b := by
  obtain ⟨x, y, foundFirst, foundSecond, alike⟩ := covers.found first second
  have before : key.Before labels a b ↔ match key.direction with
      | .ascending => x.Less y
      | .descending => y.Less x := by
    constructor
    · rintro ⟨x', y', foundFirst', foundSecond', less⟩
      obtain rfl := Option.some.inj (foundFirst'.symm.trans foundFirst)
      obtain rfl := Option.some.inj (foundSecond'.symm.trans foundSecond)
      exact less
    · exact fun less => ⟨x, y, foundFirst, foundSecond, less⟩
  rw [keyedOrder_single, foundFirst, foundSecond, before]
  change key.direction.order x y = .lt ↔ _
  cases key.direction with
  | ascending => exact alike.order_lt
  | descending => exact alike.symm.order_lt

theorem order_eq (covers : key.Covers labels items) (first : a ∈ items) (second : b ∈ items) :
    keyedOrder labels [key] a b = .eq ↔ key.value? labels a = key.value? labels b := by
  obtain ⟨x, y, foundFirst, foundSecond, alike⟩ := covers.found first second
  rw [keyedOrder_single, foundFirst, foundSecond, Option.some.injEq]
  change key.direction.order x y = .eq ↔ _
  cases key.direction with
  | ascending => exact alike.order_eq
  | descending => exact alike.symm.order_eq.trans eq_comm

-- Under such a key, no one of three elements is equal to two that differ.
theorem consistent (covers : key.Covers labels items) (first : a ∈ items) (second : b ∈ items) (third : c ∈ items) :
    Consistent (keyedOrder labels [key]) a b c where
  aroundSecond one two := (covers.order_eq first third).mpr
    (((covers.order_eq first second).mp one).trans ((covers.order_eq second third).mp two))
  aroundThird one two := (covers.order_eq second first).mpr
    (((covers.order_eq second third).mp one).trans ((covers.order_eq third first).mp two))
  aroundFirst one two := (covers.order_eq third second).mpr
    (((covers.order_eq third first).mp one).trans ((covers.order_eq first second).mp two))

end SortKey.Covers

section
variable (covers : ∀ key ∈ keys, key.Covers labels items)
include covers

theorem keyedOrder_lt (first : a ∈ items) (second : b ∈ items) :
    keyedOrder labels keys a b = .lt ↔ BeforeByKeys labels keys a b := by
  induction keys with
  | nil => exact iff_of_false nofun id
  | cons key keys ih =>
    have here := covers key List.mem_cons_self
    have later := ih fun key listed => covers key (List.mem_cons_of_mem _ listed)
    rw [keyedOrder_split, then_eq_lt, here.order_lt first second, here.order_eq first second, later]
    exact Iff.rfl

theorem keyedOrder_eq (first : a ∈ items) (second : b ∈ items) :
    keyedOrder labels keys a b = .eq ↔ ∀ key ∈ keys, key.value? labels a = key.value? labels b := by
  induction keys with
  | nil => exact iff_of_true rfl nofun
  | cons key keys ih =>
    have here := covers key List.mem_cons_self
    have later := ih fun key listed => covers key (List.mem_cons_of_mem _ listed)
    rw [keyedOrder_split, then_eq_eq, here.order_eq first second, later, List.forall_mem_cons]

-- Under such keys elements are compared without contradiction.
theorem covers_weak : Sorting.Weak (keyedOrder labels keys) items where
  asymm a _ b _ less := by
    rw [keyedOrder_swap, less]
    nofun
  trans a first b second c third notLess notLessToo less := by
    have turned : ∀ {x y : Value}, keyedOrder labels keys x y ≠ .lt → keyedOrder labels keys y x ≠ .gt := by
      intro x y notLess greater
      exact notLess ((keyedOrder_swap ..).trans (congrArg Ordering.swap greater))
    refine keyedOrder_trans (fun tied key behind parts _ => ?_) (turned notLessToo) (turned notLess) ?_
    · exact (covers key (parts ▸ List.mem_append_right tied List.mem_cons_self)).consistent third second first
    · exact (keyedOrder_swap ..).trans (congrArg Ordering.swap less)

-- Such keys leave one sorted form, which insertion finds.
theorem sortByKeys_covers :
    Sorting.sortByKeys (keys.map SortKey.direction) (keyValues labels keys) items =
      Sorting.sort (keyedOrder labels keys) items := by
  have weak := covers_weak covers
  have decorated : Sorting.Weak
      (fun a b : List Sorting.KeyValue × Value => Sorting.orderByKeys (keys.map SortKey.direction) a.1 b.1)
      (items.map fun element => (keyValues labels keys element, element)) := by
    constructor
    · intro a first b second
      obtain ⟨x, isFirst, rfl⟩ := List.mem_map.mp first
      obtain ⟨y, isSecond, rfl⟩ := List.mem_map.mp second
      exact weak.asymm x isFirst y isSecond
    · intro a first b second c third
      obtain ⟨x, isFirst, rfl⟩ := List.mem_map.mp first
      obtain ⟨y, isSecond, rfl⟩ := List.mem_map.mp second
      obtain ⟨z, isThird, rfl⟩ := List.mem_map.mp third
      exact weak.trans x isFirst y isSecond z isThird
  unfold Sorting.sortByKeys
  dsimp only
  rw [Sorting.arrange_weak decorated, Sorting.sort_map, Sorting.decorated_snd]
  rfl

-- The places that the elements of an array take from one another when it is sorted: what comes before comes first,
-- and what is equal under all keys keeps its order.
theorem sort_places : ∃ places : List (Fin items.length),
    places.Perm (List.finRange items.length) ∧ Sorting.sort (keyedOrder labels keys) items = places.map items.get ∧
      places.Pairwise fun p q => BeforeByKeys labels keys (items.get p) (items.get q) ∨
        (∀ key ∈ keys, key.value? labels (items.get p) = key.value? labels (items.get q)) ∧ p < q := by
  let order (p q : Fin items.length) : Ordering := keyedOrder labels keys (items.get p) (items.get q)
  have listed : ∀ p : Fin items.length, items.get p ∈ items := fun p => List.get_mem items p
  have weak := covers_weak covers
  have placesWeak : Sorting.Weak order (List.finRange items.length) :=
    ⟨fun p _ q _ => weak.asymm _ (listed p) _ (listed q),
      fun p _ q _ r _ => weak.trans _ (listed p) _ (listed q) _ (listed r)⟩
  refine ⟨Sorting.sort order (List.finRange items.length), Sorting.sort_perm, ?_, ?_⟩
  · calc Sorting.sort (keyedOrder labels keys) items
        = Sorting.sort (keyedOrder labels keys) ((List.finRange items.length).map items.get) := by
          rw [List.map_get_finRange]
      _ = (Sorting.sort order (List.finRange items.length)).map items.get := Sorting.sort_map
  · refine (Sorting.sort_stable placesWeak (List.pairwise_lt_finRange items.length)).imp ?_
    rintro p q (less | ⟨notGreater, earlier⟩)
    · exact .inl ((keyedOrder_lt covers (listed p) (listed q)).mp less)
    · cases between : order p q with
      | lt => exact .inl ((keyedOrder_lt covers (listed p) (listed q)).mp between)
      | eq => exact .inr ⟨(keyedOrder_eq covers (listed p) (listed q)).mp between, earlier⟩
      | gt => exact absurd ((keyedOrder_swap ..).trans (congrArg Ordering.swap between)) notGreater

end

-- Sorting finds one match, an array of the same elements. Keys that find something in every element, each values of
-- one kind, bring them in the order of the first key that tells them apart, and leave the others as they were.
theorem Path.sort_exact (labels : Option String) (keys : List SortKey) (m : Match) (items : List Value)
    (array : m.value = .array items) :
    ∃ sorted, (Path.sort keys).matchesFrom labels m = [m.select (.sort keys) (.array sorted)] ∧ sorted.Perm items ∧
      (keys ≠ [] → (∀ key ∈ keys, key.Covers labels items) → ∃ places : List (Fin items.length),
        places.Perm (List.finRange items.length) ∧ sorted = places.map items.get ∧
          places.Pairwise fun p q => BeforeByKeys labels keys (items.get p) (items.get q) ∨
            (∀ key ∈ keys, key.value? labels (items.get p) = key.value? labels (items.get q)) ∧ p < q) := by
  cases keys with
  | nil =>
    refine ⟨Sorting.arrange Value.order items, ?_, Sorting.arrange_perm .., nofun⟩
    rw [Path.matchesFrom, array]
    rfl
  | cons key keys =>
    refine ⟨Sorting.sortByKeys ((key :: keys).map SortKey.direction) (keyValues labels (key :: keys)) items, ?_,
      Sorting.sortByKeys_perm, fun _ covers => ?_⟩
    · unfold Path.matchesFrom
      rw [array]
      rfl
    · rw [sortByKeys_covers covers]
      exact sort_places covers

-- The first key goes down and the second one up; the first and the last element are equal under both.
theorem Path.sort_exact_tied :
    let element (k : Int64) (j : String) (n : Int64) : Value :=
      .object [("k", .integer k), ("j", .string j), ("n", .integer n)]
    let items := [element 1 "b" 0, element 2 "a" 1, element 1 "a" 2, element 1 "b" 3]
    let keys : List SortKey := [.mk .descending (.fields ["k"]), .mk .ascending (.fields ["j"])]
    ∃ sorted, (Path.sort keys).matchesFrom none (Match.start (.array items)) =
        [(Match.start (.array items)).select (.sort keys) (.array sorted)] ∧ sorted.Perm items ∧
      ∃ places : List (Fin items.length), places.Perm (List.finRange items.length) ∧ sorted = places.map items.get ∧
        places.Pairwise fun p q => BeforeByKeys none keys (items.get p) (items.get q) ∨
          (∀ key ∈ keys, key.value? none (items.get p) = key.value? none (items.get q)) ∧ p < q := by
  intro element items keys
  obtain ⟨sorted, found, perm, ordered⟩ := Path.sort_exact none keys (Match.start (.array items)) items rfl
  refine ⟨sorted, found, perm, ordered (by nofun) fun key listed => ?_⟩
  rcases List.mem_cons.mp listed with rfl | listed
  · refine ⟨[.integer 1, .integer 2, .integer 1, .integer 1], rfl, .inl fun value isValue => ?_⟩
    simp only [List.mem_cons, List.not_mem_nil, or_false] at isValue
    rcases isValue with rfl | rfl | rfl | rfl <;> exact ⟨_, rfl⟩
  · obtain rfl := List.mem_singleton.mp listed
    refine ⟨[.string "b", .string "a", .string "a", .string "b"], rfl, .inr (.inl fun value isValue => ?_)⟩
    simp only [List.mem_cons, List.not_mem_nil, or_false] at isValue
    rcases isValue with rfl | rfl | rfl | rfl <;> exact ⟨_, rfl⟩

end TreePath
