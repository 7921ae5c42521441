import Mathlib.Algebra.Order.Ring.Int
import Mathlib.Data.List.Basic
import Mathlib.Tactic.Ring
import TreePath.Proofs.Token.Words
import TreePath.Selection.Slice
namespace TreePath.Slice

variable {length turns n : Nat}

section
variable {step stop position : Int} {bound : Option Int64}

-- The ends between which a bound is kept. A slice that goes backwards may start at the last position and stop in
-- front of the first.
def lower (step : Int) : Int := if step < 0 then -1 else 0

def upper (length : Nat) (step : Int) : Int := if step < 0 then length - 1 else length

-- A negative bound counts from the end of the sequence; it can only be too low then, and any other only too high.
def reached (length : Nat) (step bound : Int) : Int :=
  if bound < 0 then max (bound + length) (lower step) else min bound (upper length step)

-- Where a slice starts: without a bound at the end that its step leads away from.
def entry (length : Nat) (start : Option Int64) (step : Int) : Int :=
  start.elim (if step < 0 then upper length step else lower step) (fun n => reached length step n.toInt)

-- What a slice stops in front of: without a bound the end that its step leads to.
def exit (length : Nat) (stop : Option Int64) (step : Int) : Int :=
  stop.elim (if step < 0 then lower step else upper length step) (fun n => reached length step n.toInt)

-- By how much a position differs from the one before it.
def pace (step : Option Int64) : Int := step.elim 1 Int64.toInt

-- Whether a position is before the stop in the direction of the step.
def Before (step stop position : Int) : Prop := 0 < step ∧ position < stop ∨ step < 0 ∧ stop < position

instance : Decidable (Before step stop position) := inferInstanceAs (Decidable (_ ∨ _))

theorem resolve_eq_reached (length : Nat) (step bound : Int) :
    resolve length bound (lower step) (upper length step) = reached length step bound := by
  unfold resolve reached lower upper
  dsimp only
  split_ifs <;> omega

theorem elim_resolve (moves : step ≠ 0) (rising falling : Int) :
    (if 0 < step then bound.elim rising (fun n => resolve length n.toInt 0 length)
      else bound.elim falling (fun n => resolve length n.toInt (-1) (length - 1))) =
    bound.elim (if step < 0 then falling else rising) (fun n => reached length step n.toInt) := by
  have bounds := resolve_eq_reached length step
  unfold lower upper at bounds
  rcases lt_or_gt_of_ne moves with falls | rises
  · simp only [if_pos falls] at bounds
    simp [falls, falls.not_gt, bounds]
  · simp only [if_neg rises.not_gt] at bounds
    simp [rises, rises.not_gt, bounds]

theorem first_eq_entry (moves : step ≠ 0) : first length bound step = entry length bound step := by
  unfold first entry
  rw [elim_resolve moves]
  unfold lower upper
  split_ifs <;> rfl

theorem last_eq_exit (moves : step ≠ 0) : last length bound step = exit length bound step := by
  unfold last exit
  rw [elim_resolve moves]
  unfold lower upper
  split_ifs <;> rfl

theorem reached_bounds (length : Nat) (step bound : Int) :
    lower step ≤ reached length step bound ∧ reached length step bound ≤ upper length step := by
  unfold reached lower upper
  split_ifs <;> omega

theorem lower_le_upper : lower step ≤ upper length step := by
  unfold lower upper
  split_ifs <;> omega

theorem entry_bounds (length : Nat) (bound : Option Int64) (step : Int) :
    lower step ≤ entry length bound step ∧ entry length bound step ≤ upper length step := by
  unfold entry
  cases bound with
  | some n => exact reached_bounds length step n.toInt
  | none => split_ifs <;> simp [lower_le_upper]

theorem exit_bounds (length : Nat) (bound : Option Int64) (step : Int) :
    lower step ≤ exit length bound step ∧ exit length bound step ≤ upper length step := by
  unfold exit
  cases bound with
  | some n => exact reached_bounds length step n.toInt
  | none => split_ifs <;> simp [lower_le_upper]

-- What holds wherever a count has got to: it neither leaves the sequence nor takes more turns than there are.
structure Counts (turns : Nat) (step stop position : Int) : Prop where
  moves : step ≠ 0
  rising : 0 < step → 0 ≤ position ∧ stop ≤ position + turns
  falling : step < 0 → -1 ≤ stop ∧ position ≤ stop + turns

theorem Counts.onward (counts : Counts (turns + 1) step stop position) :
    Counts turns step stop (position + step) := by
  obtain ⟨moves, rising, falling⟩ := counts
  exact ⟨moves, by omega, by omega⟩

theorem Counts.nonneg (counts : Counts turns step stop position) (before : Before step stop position) :
    0 ≤ position := by
  obtain ⟨moves, rising, falling⟩ := counts
  unfold Before at before
  omega

theorem Counts.not_before (counts : Counts 0 step stop position) : ¬Before step stop position := by
  obtain ⟨moves, rising, falling⟩ := counts
  unfold Before
  omega

-- Nothing after the stop is before it again.
theorem Before.earlier (before : Before step stop (position + n * step)) : Before step stop position := by
  unfold Before at *
  have turns : (0 : Int) ≤ n := Int.natCast_nonneg n
  rcases before with ⟨rises, inside⟩ | ⟨falls, inside⟩
  · have far := mul_nonneg turns rises.le
    omega
  · have far := mul_nonpos_of_nonneg_of_nonpos turns falls.le
    omega

theorem stride_before (before : Before step stop position) :
    stride step stop (turns + 1) position = position.toNat :: stride step stop turns (position + step) :=
  if_pos before

theorem stride_done (done : ¬Before step stop position) : stride step stop turns position = [] := by
  cases turns with
  | zero => rfl
  | succ turns => exact if_neg done

-- The terms that are before the stop, in their order, and no others.
theorem getElem?_stride (counts : Counts turns step stop position) (n : Nat) :
    ((stride step stop turns position)[n]?).map Int.ofNat =
      if Before step stop (position + n * step) then some (position + n * step) else none := by
  induction turns generalizing position n with
  | zero => rw [if_neg fun before => counts.not_before before.earlier]; rfl
  | succ turns ih =>
    by_cases before : Before step stop position
    · rw [stride_before before]
      cases n with
      | zero => simp [before, counts.nonneg before]
      | succ n =>
        have same : position + step + n * step = position + (n + 1 : Nat) * step := by push_cast; ring
        rw [List.getElem?_cons_succ, ih (counts.onward), same]
    · rw [stride_done before, if_neg fun later => before later.earlier]
      rfl

theorem counts_ends (moves : step ≠ 0) (length : Nat) (start stop : Option Int64) :
    Counts length step (exit length stop step) (entry length start step) := by
  have entries := entry_bounds length start step
  have exits := exit_bounds length stop step
  unfold lower upper at entries exits
  constructor
  · exact moves
  · intro rises
    rw [if_neg rises.not_gt, if_neg rises.not_gt] at entries exits
    omega
  · intro falls
    rw [if_pos falls, if_pos falls] at entries exits
    omega

end

section
variable {a b c word step stop position : Int64}

theorem word_bounds (a : Int64) : Integer.lowest ≤ a.toInt ∧ a.toInt ≤ Integer.highest := by
  have low := a.le_toInt
  have high := a.toInt_lt
  unfold Integer.lowest Integer.highest
  omega

-- The sum of two words, if it is a word.
def sum? (a b : Int64) : Option Int64 := Integer.ofInt? (a.toInt + b.toInt)

theorem ofInt?_eq_some_iff {n : Int} : Integer.ofInt? n = some word ↔ word.toInt = n := by
  constructor
  · intro fits
    unfold Integer.ofInt? Integer.lowest Integer.highest at fits
    split at fits
    · cases fits
      apply Int64.toInt_ofInt_of_le <;> omega
    · cases fits
  · rintro rfl
    exact Integer.ofInt?_toInt word

theorem sum?_eq_some_iff : sum? a b = some c ↔ c.toInt = a.toInt + b.toInt := ofInt?_eq_some_iff

theorem sum?_eq_none_iff : sum? a b = none ↔
    a.toInt + b.toInt < Integer.lowest ∨ Integer.highest < a.toInt + b.toInt := by
  simp [sum?, Integer.ofInt?]
  omega

theorem exists_sum (low : Integer.lowest ≤ a.toInt + b.toInt) (high : a.toInt + b.toInt ≤ Integer.highest) :
    ∃ c, sum? a b = some c ∧ c.toInt = a.toInt + b.toInt := by
  cases sum : sum? a b with
  | some c => exact ⟨c, rfl, sum?_eq_some_iff.mp sum⟩
  | none =>
    have far := sum?_eq_none_iff.mp sum
    omega

def keep (low high counted : Int64) : Int64 :=
  if counted < low then low else if high < counted then high else counted

def resolveWord? (length bound low high : Int64) : Option Int64 :=
  (if bound < 0 then sum? bound length else some bound).map (keep low high)

-- A rising count is over where the next position would be no word, as it is at the stop.
def rise (step stop position : Int64) : List Int64 :=
  if _ : 0 < step ∧ position < stop then
    position ::
      match _ : sum? position step with
      | some onward => rise step stop onward
      | none => []
  else []
termination_by (stop.toInt - position.toInt).toNat
decreasing_by
  rename_i inside sum
  have further := sum?_eq_some_iff.mp sum
  simp only [Int64.lt_iff_toInt_lt, Int64.toInt_zero] at inside
  omega

-- A falling count fails there.
def fall? (step stop position : Int64) : Option (List Int64) :=
  if _ : step < 0 ∧ stop < position then
    match _ : sum? position step with
    | some onward => (fall? step stop onward).map (position :: ·)
    | none => none
  else some []
termination_by (position.toInt - stop.toInt).toNat
decreasing_by
  rename_i inside sum
  have further := sum?_eq_some_iff.mp sum
  simp only [Int64.lt_iff_toInt_lt, Int64.toInt_zero] at inside
  omega

def risingWords? (length step : Int64) (start stop : Option Int64) : Option (List Int64) := do
  let first ← start.elim (some 0) (fun bound => resolveWord? length bound 0 length)
  let last ← stop.elim (some length) (fun bound => resolveWord? length bound 0 length)
  return rise step last first

def fallingWords? (length step : Int64) (start stop : Option Int64) : Option (List Int64) := do
  let top ← sum? length (-1)
  let first ← start.elim (some top) (fun bound => resolveWord? length bound (-1) top)
  let last ← stop.elim (some (-1)) (fun bound => resolveWord? length bound (-1) top)
  fall? step last first

-- The positions of a slice as words; none if a sum on the way to them is no word. A sequence whose length is no
-- word has no positions.
def words? (length : Nat) (start stop step : Option Int64) : Option (List Int64) :=
  match Integer.ofInt? length with
  | none => some []
  | some length =>
    let step := step.getD 1
    if 0 < step then risingWords? length step start stop
    else if step < 0 then fallingWords? length step start stop
    else some []

theorem keep_toInt (low high counted : Int64) : (keep low high counted).toInt =
    if counted.toInt < low.toInt then low.toInt
    else if high.toInt < counted.toInt then high.toInt
    else counted.toInt := by
  unfold keep
  simp only [Int64.lt_iff_toInt_lt]
  split_ifs <;> rfl

-- A negative bound and a length are never too far apart for their sum.
theorem resolveWord?_exact (size : word.toInt = length) (n low high : Int64) :
    ∃ kept, resolveWord? word n low high = some kept ∧ kept.toInt = resolve length n.toInt low.toInt high.toInt := by
  have counted : ∃ counted, (if n < 0 then sum? n word else some n) = some counted ∧
      counted.toInt = if n.toInt < 0 then n.toInt + length else n.toInt := by
    have bounds := word_bounds n
    have sizes := word_bounds word
    unfold Integer.lowest at bounds
    simp only [Int64.lt_iff_toInt_lt, Int64.toInt_zero]
    split_ifs with negative
    · rw [← size]
      apply exists_sum
      · unfold Integer.lowest
        omega
      · omega
    · exact ⟨n, rfl, rfl⟩
  obtain ⟨counted, found, same⟩ := counted
  refine ⟨keep low high counted, by rw [resolveWord?, found]; rfl, ?_⟩
  rw [keep_toInt, same]
  rfl

theorem elim_word (size : word.toInt = length) (bound : Option Int64) (low high free : Int64) :
    ∃ kept, bound.elim (some free) (fun n => resolveWord? word n low high) = some kept ∧
      kept.toInt = bound.elim free.toInt (fun n => resolve length n.toInt low.toInt high.toInt) := by
  cases bound with
  | none => exact ⟨free, rfl, rfl⟩
  | some n => exact resolveWord?_exact size n low high

theorem rise_done (done : ¬Before step.toInt stop.toInt position.toInt) :
    rise step stop position = [] := by
  rw [rise, dif_neg]
  rw [Int64.lt_iff_toInt_lt, Int64.lt_iff_toInt_lt]
  exact fun inside => done (.inl inside)

theorem fall?_done (done : ¬Before step.toInt stop.toInt position.toInt) :
    fall? step stop position = some [] := by
  rw [fall?, dif_neg]
  rw [Int64.lt_iff_toInt_lt, Int64.lt_iff_toInt_lt]
  exact fun inside => done (.inr inside)

theorem rise_exact (rises : 0 < step.toInt)
    (counts : Counts turns step.toInt stop.toInt position.toInt) :
    (rise step stop position).map Int64.toInt =
      (stride step.toInt stop.toInt turns position.toInt).map Int.ofNat := by
  induction turns generalizing position with
  | zero =>
    rw [stride_done counts.not_before, rise_done counts.not_before]
    rfl
  | succ turns ih =>
    by_cases before : Before step.toInt stop.toInt position.toInt
    · have here := Int.toNat_of_nonneg (counts.nonneg before)
      have further := counts.onward
      have inside : 0 < step ∧ position < stop := by
        rw [Int64.lt_iff_toInt_lt, Int64.lt_iff_toInt_lt]
        exact before.resolve_right fun falls => rises.not_gt falls.1
      rw [stride_before before, rise, dif_pos inside, List.map_cons, List.map_cons, Int.ofNat_eq_natCast, here]
      congr 1
      split
      · rename_i onward sum
        rw [← sum?_eq_some_iff.mp sum] at further ⊢
        exact ih further
      · rename_i missing
        have far := sum?_eq_none_iff.mp missing
        have done : ¬Before step.toInt stop.toInt (position.toInt + step.toInt) := by
          have stops := word_bounds stop
          have starts := word_bounds position
          unfold Before
          omega
        rw [stride_done done]
        rfl
    · rw [stride_done before, rise_done before]
      rfl

-- A position before the stop of a falling count is not negative, so a step down from it is always a word.
theorem fall?_exact (falls : step.toInt < 0)
    (counts : Counts turns step.toInt stop.toInt position.toInt) :
    ∃ words, fall? step stop position = some words ∧
      words.map Int64.toInt = (stride step.toInt stop.toInt turns position.toInt).map Int.ofNat := by
  induction turns generalizing position with
  | zero => exact ⟨[], fall?_done counts.not_before, by rw [stride_done counts.not_before]; rfl⟩
  | succ turns ih =>
    by_cases before : Before step.toInt stop.toInt position.toInt
    · have nonneg := counts.nonneg before
      have here := Int.toNat_of_nonneg nonneg
      have further := counts.onward
      have inside : step < 0 ∧ stop < position := by
        rw [Int64.lt_iff_toInt_lt, Int64.lt_iff_toInt_lt]
        exact before.resolve_left fun rises => falls.not_gt rises.1
      rw [stride_before before, fall?, dif_pos inside, List.map_cons, Int.ofNat_eq_natCast, here]
      split
      · rename_i onward sum
        rw [← sum?_eq_some_iff.mp sum] at further ⊢
        obtain ⟨words, found, same⟩ := ih further
        exact ⟨position :: words, by rw [found]; rfl, by rw [List.map_cons, same]⟩
      · rename_i missing
        have far := sum?_eq_none_iff.mp missing
        have steps := word_bounds step
        have starts := word_bounds position
        omega
    · exact ⟨[], fall?_done before, by rw [stride_done before]; rfl⟩

theorem risingWords?_exact (size : word.toInt = length) (rises : 0 < step.toInt)
    (start stop : Option Int64) :
    ∃ words, risingWords? word step start stop = some words ∧ words.map Int64.toInt =
      (stride step.toInt (exit length stop step.toInt) length (entry length start step.toInt)).map Int.ofNat := by
  have counts := counts_ends rises.ne' length start stop
  obtain ⟨first, foundFirst, sameFirst⟩ := elim_word size start 0 word 0
  obtain ⟨last, foundLast, sameLast⟩ := elim_word size stop 0 word word
  rw [size] at sameFirst sameLast
  have starts : entry length start step.toInt = first.toInt := by
    rw [← first_eq_entry rises.ne', Slice.first, if_pos rises, sameFirst]
    rfl
  have stops : exit length stop step.toInt = last.toInt := by
    rw [← last_eq_exit rises.ne', Slice.last, if_pos rises, sameLast]
    rfl
  rw [starts, stops] at counts ⊢
  refine ⟨rise step last first, ?_, rise_exact rises counts⟩
  rw [risingWords?, foundFirst, foundLast]
  rfl

theorem fallingWords?_exact (size : word.toInt = length) (falls : step.toInt < 0)
    (start stop : Option Int64) :
    ∃ words, fallingWords? word step start stop = some words ∧ words.map Int64.toInt =
      (stride step.toInt (exit length stop step.toInt) length (entry length start step.toInt)).map Int.ofNat := by
  have counts := counts_ends falls.ne length start stop
  have sizes := word_bounds word
  have one : (-1 : Int64).toInt = -1 := by decide
  obtain ⟨top, foundTop, sameTop⟩ : ∃ top, sum? word (-1) = some top ∧ top.toInt = word.toInt + (-1 : Int64).toInt := by
    apply exists_sum <;> unfold Integer.lowest at * <;> omega
  rw [one, size] at sameTop
  obtain ⟨first, foundFirst, sameFirst⟩ := elim_word size start (-1) top top
  obtain ⟨last, foundLast, sameLast⟩ := elim_word size stop (-1) top (-1)
  rw [sameTop] at sameFirst sameLast
  have starts : entry length start step.toInt = first.toInt := by
    rw [← first_eq_entry falls.ne, Slice.first, if_neg falls.not_gt, sameFirst]
    rfl
  have stops : exit length stop step.toInt = last.toInt := by
    rw [← last_eq_exit falls.ne, Slice.last, if_neg falls.not_gt, sameLast]
    rfl
  rw [starts, stops] at counts ⊢
  obtain ⟨words, found, same⟩ := fall?_exact falls counts
  refine ⟨words, ?_, same⟩
  rw [fallingWords?, foundTop, Option.bind_eq_bind, Option.bind_some, foundFirst, foundLast]
  exact found

end

section
variable {start stop step : Option Int64}

theorem pace_ne_zero (moves : step ≠ some 0) : pace step ≠ 0 := by
  cases step with
  | none => decide
  | some n => exact fun same => moves (congrArg some (Int64.toInt_inj.mp same))

theorem positions_eq_stride (moves : step ≠ some 0) (start stop : Option Int64) :
    positions length start stop step =
      stride (pace step) (exit length stop (pace step)) length (entry length start (pace step)) := by
  rw [← first_eq_entry (pace_ne_zero moves), ← last_eq_exit (pace_ne_zero moves)]
  rfl

-- A count by ones takes in all positions up to its stop.
theorem stride_one {stop position : Int} (counts : Counts turns 1 stop position) :
    stride 1 stop turns position = List.range' position.toNat (stop - position).toNat := by
  induction turns generalizing position with
  | zero =>
    have done : (stop - position).toNat = 0 := by
      have outside := counts.not_before
      unfold Before at outside
      omega
    rw [done]
    rfl
  | succ turns ih =>
    by_cases inside : position < stop
    · have nonneg := (counts.rising Int.one_pos).1
      have more : (stop - position).toNat = (stop - (position + 1)).toNat + 1 := by omega
      have next : (position + 1).toNat = position.toNat + 1 := by omega
      rw [stride_before (.inl ⟨Int.one_pos, inside⟩), ih counts.onward, more, next, List.range'_succ]
    · have done : ¬Before 1 stop position := by
        unfold Before
        omega
      have none : (stop - position).toNat = 0 := by omega
      rw [stride_done done, none]
      rfl

theorem positions_forth (length : Nat) (start stop : Option Int64) :
    positions length start stop none =
      List.range' (entry length start 1).toNat (exit length stop 1 - entry length start 1).toNat := by
  have moves : (none : Option Int64) ≠ some 0 := nofun
  rw [positions_eq_stride moves]
  exact stride_one (counts_ends Int.one_ne_zero length start stop)

theorem getElem?_positions (moves : step ≠ some 0) (length : Nat) (start stop : Option Int64)
    (n : Nat) :
    (positions length start stop step)[n]?.map Int.ofNat =
      if Before (pace step) (exit length stop (pace step)) (entry length start (pace step) + n * pace step) then
        some (entry length start (pace step) + n * pace step)
      else none := by
  rw [positions_eq_stride moves]
  exact getElem?_stride (counts_ends (pace_ne_zero moves) length start stop) n

theorem of_getElem?_positions (moves : step ≠ some 0) {found : Nat}
    (listed : (positions length start stop step)[n]? = some found) :
    (found : Int) = entry length start (pace step) + n * pace step ∧
      Before (pace step) (exit length stop (pace step)) found := by
  have term := getElem?_positions moves length start stop n
  rw [listed, Option.map_some] at term
  split at term
  · rename_i before
    have same : (found : Int) = _ := Option.some.inj term
    exact ⟨same, same ▸ before⟩
  · cases term

theorem lt_of_mem_positions (moves : step ≠ some 0) {found : Nat}
    (listed : found ∈ positions length start stop step) : found < length := by
  obtain ⟨n, here⟩ := List.getElem?_of_mem listed
  obtain ⟨same, before⟩ := of_getElem?_positions moves here
  have entries := entry_bounds length start (pace step)
  have exits := exit_bounds length stop (pace step)
  unfold lower upper at entries exits
  rcases before with ⟨rises, inside⟩ | ⟨falls, inside⟩
  · rw [if_neg rises.not_gt, if_neg rises.not_gt] at exits
    omega
  · have down := mul_nonpos_of_nonneg_of_nonpos (Int.natCast_nonneg n) falls.le
    rw [if_pos falls, if_pos falls] at entries
    omega

theorem pairwise_positions (moves : step ≠ some 0) (start stop : Option Int64) :
    (positions length start stop step).Pairwise fun before behind =>
      if 0 < pace step then before < behind else behind < before := by
  rw [List.pairwise_iff_getElem]
  intro i j insideFirst insideSecond order
  have first := (of_getElem?_positions moves (List.getElem?_eq_getElem insideFirst)).1
  have second := (of_getElem?_positions moves (List.getElem?_eq_getElem insideSecond)).1
  have apart : (i : Int) < j := Int.ofNat_lt.mpr order
  split
  · rename_i rises
    have further := mul_lt_mul_of_pos_right apart rises
    omega
  · rename_i notRises
    have falls := lt_of_le_of_ne (not_lt.mp notRises) (pace_ne_zero moves)
    have further := mul_lt_mul_of_neg_right apart falls
    omega

theorem words?_exact (small : (length : Int) ≤ Integer.highest) (start stop : Option Int64)
    (moves : step ≠ some 0) :
    ∃ words, words? length start stop step = some words ∧
      words.map Int64.toInt = (positions length start stop step).map Int.ofNat := by
  have isWord : Integer.ofInt? length = some (Int64.ofInt length) := by
    unfold Integer.ofInt? Integer.lowest
    rw [if_pos ⟨by omega, small⟩]
  have size := ofInt?_eq_some_iff.mp isWord
  have moving := pace_ne_zero moves
  have same : pace step = (step.getD 1).toInt := by cases step <;> rfl
  unfold words?
  rw [isWord, positions_eq_stride moves]
  rw [same] at moving ⊢
  dsimp only
  rcases lt_or_gt_of_ne moving with falls | rises
  · have notRises : ¬0 < step.getD 1 := by
      rw [Int64.lt_iff_toInt_lt]
      exact falls.not_gt
    rw [if_neg notRises, if_pos (Int64.lt_iff_toInt_lt.mpr falls)]
    exact fallingWords?_exact size falls start stop
  · have risesToo : 0 < step.getD 1 := by
      rw [Int64.lt_iff_toInt_lt]
      exact rises
    rw [if_pos risesToo]
    exact risingWords?_exact size rises start stop

end

-- A slice finds the terms that lead from its start by its step, as far as they are before its stop, and nothing
-- else. Each of them is in the sequence, and they only rise or only fall. Counted in words they are the same: no sum
-- on the way leaves the words.
theorem positions_exact (length : Nat) (start stop step : Option Int64) (small : (length : Int) ≤ Integer.highest)
    (moves : step ≠ some 0) :
    let found := positions length start stop step
    let term (n : Nat) := entry length start (pace step) + n * pace step
    (∀ n, found[n]?.map Int.ofNat =
        if Before (pace step) (exit length stop (pace step)) (term n) then some (term n) else none) ∧
      (∀ position ∈ found, position < length) ∧
      found.Pairwise (fun before behind => if 0 < pace step then before < behind else behind < before) ∧
      ∃ words, words? length start stop step = some words ∧ words.map Int64.toInt = found.map Int.ofNat :=
  ⟨getElem?_positions moves length start stop, fun _ => lt_of_mem_positions moves, pairwise_positions moves start stop,
    words?_exact small start stop moves⟩

-- The longest step back there is, from the last of three positions.
theorem positions_exact_longest :
    let step := some Int64.minValue
    (3 : Int) ≤ Integer.highest ∧ step ≠ some 0 ∧ positions 3 (some (-1)) none step = [2] ∧
      ∃ words, words? 3 (some (-1)) none step = some words ∧ words.map Int64.toInt = [2] := by
  intro step
  have small : (3 : Int) ≤ Integer.highest := by decide
  have moves : step ≠ some 0 := by decide
  have only : positions 3 (some (-1)) none step = [2] := by decide
  obtain ⟨_, _, _, words, found, same⟩ := positions_exact 3 (some (-1)) none step small moves
  exact ⟨small, moves, only, words, found, by rw [same, only]; rfl⟩

end TreePath.Slice
