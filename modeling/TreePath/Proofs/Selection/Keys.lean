import TreePath.Proofs.Selection.Compare
import TreePath.Selection.Find
namespace TreePath
open Ordering

-- How a sort by keys compares two elements.
def keyedOrder (labels : Option String) (keys : List SortKey) (a b : Value) : Ordering :=
  Sorting.orderByKeys (keys.map fun | .mk direction _ => direction) (keyValues labels keys a) (keyValues labels keys b)

-- Of three elements, no one is equal to both others while these differ.
structure Consistent (order : Value → Value → Ordering) (a b c : Value) : Prop where
  aroundSecond : order a b = .eq → order b c = .eq → order a c = .eq
  aroundThird : order b c = .eq → order c a = .eq → order b a = .eq
  aroundFirst : order c a = .eq → order a b = .eq → order c b = .eq

-- All three elements are equal.
structure Ties (order : Value → Value → Ordering) (a b c : Value) : Prop where
  firstSecond : order a b = .eq
  secondThird : order b c = .eq
  firstThird : order a c = .eq

variable {labels : Option String} {key : SortKey} {keys : List SortKey} {a b c x y z : Value}

def SortKey.direction : SortKey → Direction
  | .mk direction _ => direction

-- How values found by a key are compared.
def Direction.order : Direction → Value → Value → Ordering
  | .ascending, x, y => Value.order x y
  | .descending, x, y => Value.order y x

-- The same where nothing may be found.
def Direction.compare : Direction → Sorting.KeyValue → Sorting.KeyValue → Ordering
  | direction, some x, some y => direction.order x y
  | _, _, _ => .eq

theorem Direction.compare_missing {direction : Direction} {x y : Sorting.KeyValue} (missing : x = none ∨ y = none) :
    direction.compare x y = .eq := by
  rcases missing with rfl | rfl
  · rfl
  · cases x <;> rfl

-- The first key that tells two elements apart decides.
theorem keyedOrder_cons : keyedOrder labels (key :: keys) a b =
    (key.direction.compare (key.value? labels a) (key.value? labels b)).then (keyedOrder labels keys a b) := by
  have decides : ∀ order rest : Ordering, (if order = .eq then rest else order) = order.then rest := by
    intro order rest
    cases order <;> rfl
  obtain ⟨direction, path⟩ := key
  refine (decides _ _).trans (congrArg (Ordering.then · _) ?_)
  generalize SortKey.value? labels (.mk direction path) a = first
  generalize SortKey.value? labels (.mk direction path) b = second
  cases first <;> cases second <;> cases direction <;> rfl

theorem keyedOrder_single : keyedOrder labels [key] a b =
    key.direction.compare (key.value? labels a) (key.value? labels b) := by
  rw [keyedOrder_cons]
  exact Ordering.then_eq

theorem keyedOrder_split : keyedOrder labels (key :: keys) a b =
    (keyedOrder labels [key] a b).then (keyedOrder labels keys a b) := by
  rw [keyedOrder_cons, keyedOrder_single]

theorem Direction.order_swap (direction : Direction) (x y : Value) :
    direction.order y x = (direction.order x y).swap := by
  cases direction with
  | ascending => exact Value.order_swap x y
  | descending => exact Value.order_swap y x

theorem Direction.compare_swap (direction : Direction) (x y : Sorting.KeyValue) :
    direction.compare y x = (direction.compare x y).swap := by
  cases x <;> cases y <;> first | rfl | exact direction.order_swap _ _

theorem keyedOrder_swap (labels : Option String) (keys : List SortKey) (a b : Value) :
    keyedOrder labels keys b a = (keyedOrder labels keys a b).swap := by
  induction keys with
  | nil => rfl
  | cons key keys ih => rw [keyedOrder_cons, keyedOrder_cons, Direction.compare_swap, ih, swap_then]

theorem Direction.between (direction : Direction) (first : direction.order x y ≠ .gt)
    (second : direction.order y z ≠ .gt) (greater : direction.order x z = .gt) :
    direction.order x y = .eq ∧ direction.order y z = .eq := by
  cases direction with
  | ascending => exact (Value.blurs_of_between first second greater).equal greater
  | descending => exact ((Value.blurs_of_between second first greater).equal greater).symm

-- Under one key, only what is equal to both comes between a greater element and a lesser one.
theorem single_between (first : keyedOrder labels [key] a b ≠ .gt) (second : keyedOrder labels [key] b c ≠ .gt)
    (greater : keyedOrder labels [key] a c = .gt) :
    keyedOrder labels [key] a b = .eq ∧ keyedOrder labels [key] b c = .eq := by
  rw [keyedOrder_single] at first second greater ⊢
  rw [keyedOrder_single]
  cases onFirst : key.value? labels a with
  | none =>
    rw [Direction.compare_missing (.inl onFirst)] at greater
    cases greater
  | some x =>
    cases onThird : key.value? labels c with
    | none =>
      rw [Direction.compare_missing (.inr onThird)] at greater
      cases greater
    | some z =>
      rw [onFirst] at first greater
      rw [onThird] at second greater
      cases onSecond : key.value? labels b with
      | none => exact ⟨rfl, rfl⟩
      | some y =>
        rw [onSecond] at first second
        exact key.direction.between first second greater

-- Three elements that keys compare in a ring, the first of them greater than the third. Up to some key all are equal;
-- under that one a single element is equal to both others, which differ, and the keys behind it settle its place
-- against the difference.
inductive Tangled (labels : Option String) (a b c : Value) : List SortKey → Prop where
  | later {key : SortKey} {keys : List SortKey} (tied : Ties (keyedOrder labels [key]) a b c)
      (behind : Tangled labels a b c keys) : Tangled labels a b c (key :: keys)
  | aroundSecond {key : SortKey} {keys : List SortKey} (one : keyedOrder labels [key] a b = .eq)
      (two : keyedOrder labels [key] b c = .eq) (greater : keyedOrder labels [key] a c = .gt)
      (first : keyedOrder labels keys a b ≠ .gt) (second : keyedOrder labels keys b c ≠ .gt) :
      Tangled labels a b c (key :: keys)
  | aroundThird {key : SortKey} {keys : List SortKey} (one : keyedOrder labels [key] b c = .eq)
      (two : keyedOrder labels [key] a c = .eq) (less : keyedOrder labels [key] a b = .lt)
      (second : keyedOrder labels keys b c ≠ .gt) (greater : keyedOrder labels keys a c = .gt) :
      Tangled labels a b c (key :: keys)
  | aroundFirst {key : SortKey} {keys : List SortKey} (one : keyedOrder labels [key] a b = .eq)
      (two : keyedOrder labels [key] a c = .eq) (less : keyedOrder labels [key] b c = .lt)
      (first : keyedOrder labels keys a b ≠ .gt) (greater : keyedOrder labels keys a c = .gt) :
      Tangled labels a b c (key :: keys)

theorem keyedOrder_decided {order : Ordering} (decided : keyedOrder labels [key] a b = order) :
    keyedOrder labels (key :: keys) a b = order.then (keyedOrder labels keys a b) := by
  rw [keyedOrder_split, decided]

theorem Tangled.between (tangled : Tangled labels a b c keys) :
    keyedOrder labels keys a b ≠ .gt ∧ keyedOrder labels keys b c ≠ .gt ∧ keyedOrder labels keys a c = .gt := by
  induction tangled with
  | later tied _ ih =>
    rw [keyedOrder_decided tied.firstSecond, keyedOrder_decided tied.secondThird, keyedOrder_decided tied.firstThird]
    exact ih
  | aroundSecond one two greater first second =>
    rw [keyedOrder_decided one, keyedOrder_decided two, keyedOrder_decided greater]
    exact ⟨first, second, rfl⟩
  | aroundThird one two less second greater =>
    rw [keyedOrder_decided one, keyedOrder_decided two, keyedOrder_decided less]
    exact ⟨nofun, second, greater⟩
  | aroundFirst one two less first greater =>
    rw [keyedOrder_decided one, keyedOrder_decided two, keyedOrder_decided less]
    exact ⟨first, nofun, greater⟩

-- Induction on the keys. Under the first one, no two comparisons are strict if the three do not agree.
theorem tangled_of_between (first : keyedOrder labels keys a b ≠ .gt) (second : keyedOrder labels keys b c ≠ .gt)
    (greater : keyedOrder labels keys a c = .gt) : Tangled labels a b c keys := by
  induction keys with
  | nil => cases greater
  | cons key keys ih =>
    rw [keyedOrder_split] at first second greater
    have firstHere : keyedOrder labels [key] a b ≠ .gt := fun above => first (by rw [above]; rfl)
    have secondHere : keyedOrder labels [key] b c ≠ .gt := fun above => second (by rw [above]; rfl)
    cases third : keyedOrder labels [key] a c with
    | lt =>
      rw [third] at greater
      cases greater
    | gt =>
      obtain ⟨one, two⟩ := single_between firstHere secondHere third
      rw [one] at first
      rw [two] at second
      exact .aroundSecond one two third first second
    | eq =>
      rw [third] at greater
      cases one : keyedOrder labels [key] a b with
      | gt => exact absurd one firstHere
      | eq =>
        rw [one] at first
        cases two : keyedOrder labels [key] b c with
        | gt => exact absurd two secondHere
        | eq =>
          rw [two] at second
          exact .later ⟨one, two, third⟩ (ih first second greater)
        | lt => exact .aroundFirst one third two first greater
      | lt =>
        cases two : keyedOrder labels [key] b c with
        | gt => exact absurd two secondHere
        | eq =>
          rw [two] at second
          exact .aroundThird two third one second greater
        | lt =>
          have back : keyedOrder labels [key] c a = .eq := by
            rw [keyedOrder_swap, third]
            rfl
          have down : keyedOrder labels [key] c b = .gt := by
            rw [keyedOrder_swap, two]
            rfl
          obtain ⟨-, equal⟩ := single_between (by rw [back]; nofun) firstHere down
          rw [one] at equal
          cases equal

theorem keyedOrder_trans_iff (labels : Option String) (keys : List SortKey) (a b c : Value) :
    (keyedOrder labels keys a b ≠ .gt → keyedOrder labels keys b c ≠ .gt → keyedOrder labels keys a c ≠ .gt) ↔
      ¬Tangled labels a b c keys := by
  constructor
  · intro trans tangled
    obtain ⟨first, second, greater⟩ := tangled.between
    exact trans first second greater
  · exact fun untangled first second greater => untangled (tangled_of_between first second greater)

-- A key that puts the first element before the third untangles them.
theorem not_tangled_of_lt (less : keyedOrder labels [key] a c = .lt) : ¬Tangled labels a b c (key :: keys) := by
  intro tangled
  have greater := tangled.between.2.2
  rw [keyedOrder_decided less] at greater
  cases greater

-- The first key under which the three are not all equal is to blame.
theorem Tangled.inconsistent (tangled : Tangled labels a b c keys) : ∃ tied key behind,
    keys = tied ++ key :: behind ∧ (∀ other ∈ tied, Ties (keyedOrder labels [other]) a b c) ∧
      ¬Consistent (keyedOrder labels [key]) a b c := by
  have swapped : ∀ {key : SortKey} {x y : Value} {order : Ordering}, keyedOrder labels [key] x y = order →
      keyedOrder labels [key] y x = order.swap := fun found => (keyedOrder_swap ..).trans (congrArg swap found)
  induction tangled with
  | later tied _ ih =>
    obtain ⟨before, key, behind, rfl, allTied, blame⟩ := ih
    exact ⟨_ :: before, key, behind, rfl, List.forall_mem_cons.mpr ⟨tied, allTied⟩, blame⟩
  | aroundSecond one two greater _ _ =>
    refine ⟨[], _, _, rfl, nofun, fun law => ?_⟩
    have equal := law.aroundSecond one two
    rw [greater] at equal
    cases equal
  | aroundThird one two less _ _ =>
    refine ⟨[], _, _, rfl, nofun, fun law => ?_⟩
    have equal := law.aroundThird one (swapped two)
    rw [swapped less] at equal
    cases equal
  | aroundFirst one two less _ _ =>
    refine ⟨[], _, _, rfl, nofun, fun law => ?_⟩
    have equal := law.aroundFirst (swapped two) one
    rw [swapped less] at equal
    cases equal

theorem keyedOrder_trans
    (consistent : ∀ tied key behind, keys = tied ++ key :: behind →
      (∀ other ∈ tied, Ties (keyedOrder labels [other]) a b c) → Consistent (keyedOrder labels [key]) a b c) :
    keyedOrder labels keys a b ≠ .gt → keyedOrder labels keys b c ≠ .gt → keyedOrder labels keys a c ≠ .gt := by
  refine (keyedOrder_trans_iff labels keys a b c).mpr fun tangled => ?_
  obtain ⟨tied, key, behind, parts, allTied, blame⟩ := tangled.inconsistent
  exact blame (consistent tied key behind parts allTied)

-- Both comparators are reversed with what they compare. A value may stand between a greater one and a lesser one,
-- but only where it is equal to both; and keys order three elements unless they compare them in a ring.
theorem comparators_exact (labels : Option String) (keys : List SortKey) (a b c : Value) :
    Value.order b a = (Value.order a b).swap ∧
    ((Value.order a b ≠ .gt → Value.order b c ≠ .gt → Value.order a c ≠ .gt) ↔
      ¬(Value.order a c = .gt ∧ Value.Blurs b a c)) ∧
    keyedOrder labels keys b a = (keyedOrder labels keys a b).swap ∧
    ((keyedOrder labels keys a b ≠ .gt → keyedOrder labels keys b c ≠ .gt → keyedOrder labels keys a c ≠ .gt) ↔
      ¬Tangled labels a b c keys) :=
  ⟨Value.order_swap a b, Value.order_trans_iff a b c, keyedOrder_swap labels keys a b,
    keyedOrder_trans_iff labels keys a b c⟩

-- Three elements that the first key orders but for the second one, which lacks it; the key behind it leaves them so.
theorem comparators_exact_lacking :
    let first : Value := .object [("k", .integer 1), ("j", .integer 1)]
    let second : Value := .object [("k", .integer 2)]
    let third : Value := .object [("k", .integer 3), ("j", .integer 0)]
    let keys : List SortKey := [.mk .ascending (.fields ["k"]), .mk .ascending (.fields ["j"])]
    keyedOrder none keys first second ≠ .gt ∧ keyedOrder none keys second third ≠ .gt ∧
      keyedOrder none keys first third ≠ .gt := by
  intro first second third keys
  have upward : keyedOrder none keys first second ≠ .gt := by decide
  have upwardAgain : keyedOrder none keys second third ≠ .gt := by decide
  refine ⟨upward, upwardAgain, (comparators_exact none keys first second third).2.2.2.mpr ?_ upward upwardAgain⟩
  exact not_tangled_of_lt (by decide)

-- A text between two integers, a double between two integers that are rounded to it, and an element without the key
-- between two that have it.
theorem comparators_intransitive :
    (Value.order (.integer 2) (.string "x") ≠ .gt ∧ Value.order (.string "x") (.integer 1) ≠ .gt ∧
      Value.order (.integer 2) (.integer 1) = .gt) ∧
    (Value.order (.integer 9007199254740993) (.float (.ofBits 0x4340000000000000)) = .eq ∧
      Value.order (.float (.ofBits 0x4340000000000000)) (.integer 9007199254740992) = .eq ∧
      Value.order (.integer 9007199254740993) (.integer 9007199254740992) = .gt) ∧
    keyedOrder none [.mk .ascending (.fields ["k"])] (.object [("k", .integer 2)]) (.object []) ≠ .gt ∧
      keyedOrder none [.mk .ascending (.fields ["k"])] (.object []) (.object [("k", .integer 1)]) ≠ .gt ∧
      keyedOrder none [.mk .ascending (.fields ["k"])] (.object [("k", .integer 2)])
        (.object [("k", .integer 1)]) = .gt :=
  ⟨by decide, ⟨rfl, rfl, rfl⟩, by decide⟩

end TreePath
