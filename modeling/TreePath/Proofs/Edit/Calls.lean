import TreePath.Proofs.Edit.Replacement
namespace TreePath

variable {σ : Type} {labels : Option String} {path : Path} {tree after last current part value : Value}
  {location place : Location} {target : Target} {targets rest : List Target} {state final : σ}
  {replacement : Replacing → σ → Value × σ}

-- One call of a replacement function: what it was given, and what it gave back.
structure Call where
  given : Replacing
  returned : Value

-- A replacement function that also keeps a record of its calls.
def recorded (replacement : Replacing → σ → Value × σ) :
    Replacing → σ × List Call → Value × (σ × List Call)
  | given, (state, calls) =>
    let (value, state) := replacement given state
    (value, (state, calls ++ [⟨given, value⟩]))

-- Calls with the locations they were made for.
abbrev CallLog := List (Location × Call)

def CallLog.calls (log : CallLog) : List Call := log.map Prod.snd

-- What was to be written where.
def CallLog.writes (log : CallLog) : List (Location × Value) :=
  log.map fun (location, call) => (location, call.returned)

namespace Value

-- Write after write, each at a part that is there.
def writeEach? (tree : Value) : List (Location × Value) → Option Value
  | [] => some tree
  | (location, value) :: rest => (tree.write? location value).bind (writeEach? · rest)

-- Of these writes, those strictly below a location, as they are seen from there.
def writesBelow (location : Location) : List (Location × Value) → List (Location × Value)
  | [] => []
  | (place, value) :: rest =>
    if location <+: place ∧ location ≠ place then
      (place.drop location.length, value) :: writesBelow location rest
    else writesBelow location rest

variable {writes : List (Location × Value)}

theorem writesBelow_below {suffix : Location} (proper : suffix ≠ []) :
    writesBelow location ((location ++ suffix, value) :: writes) = (suffix, value) :: writesBelow location writes := by
  have below : location <+: location ++ suffix ∧ location ≠ location ++ suffix := by
    refine ⟨List.prefix_append _ _, fun same => proper ?_⟩
    exact List.append_cancel_left ((List.append_nil location).trans same).symm
  rw [writesBelow, if_pos below, List.drop_left]

theorem writesBelow_elsewhere (notBelow : ¬location <+: place) :
    writesBelow location ((place, value) :: writes) = writesBelow location writes := by
  rw [writesBelow, if_neg fun h => notBelow h.1]

-- As long as nothing is written at or above a location, its part only takes the writes below it.
theorem resolve?_writeEach? (written : tree.writeEach? writes = some after)
    (notAbove : ∀ write ∈ writes, ¬write.1 <+: location) (found : tree.resolve? location = some part) :
    ∃ changed, part.writeEach? (writesBelow location writes) = some changed ∧
      after.resolve? location = some changed := by
  induction writes generalizing tree part with
  | nil =>
    cases written
    exact ⟨part, rfl, found⟩
  | cons write rest ih =>
    obtain ⟨place, value⟩ := write
    obtain ⟨middle, first, next⟩ := Option.bind_eq_some_iff.mp written
    have later := fun write inside => notAbove write (List.mem_cons_of_mem _ inside)
    have notHere : ¬place <+: location := notAbove (place, value) List.mem_cons_self
    by_cases below : location <+: place
    · obtain ⟨suffix, rfl⟩ := below
      have proper : suffix ≠ [] := by
        rintro rfl
        exact notHere (by simp)
      obtain ⟨old, new, reached, inner, kept⟩ := resolve?_write?_above first
      rw [found] at reached
      cases reached
      obtain ⟨changed, rest, same⟩ := ih next later kept
      refine ⟨changed, ?_, same⟩
      rw [writesBelow_below proper, writeEach?, inner, Option.bind_some, rest]
    · rw [writesBelow_elsewhere below]
      refine ih next later ?_
      rw [resolve?_write?_apart first notHere below, found]

end Value

-- A run that asks for a replacement at each of its targets, and writes it there.
inductive Serves (replacement : Replacing → σ → Value × σ) :
    List Target → Value → σ → CallLog → Value → σ → Prop where
  | done (tree : Value) (state : σ) : Serves replacement [] tree state [] tree state
  | call {target : Target} {rest : List Target} {tree current value after last : Value} {state next final : σ}
      {log : CallLog} (present : tree.resolve? target.location = some current)
      (answer : replacement ⟨current, tree, target.path⟩ state = (value, next))
      (written : tree.write? target.location value = some after)
      (later : Serves replacement rest after next log last final) :
      Serves replacement (target :: rest) tree state
        ((target.location, ⟨⟨current, tree, target.path⟩, value⟩) :: log) last final

variable {log earlier later : CallLog} {call : Call}

-- No target is lost on the way: what is written before it is not above it.
theorem serves_all (replacement : Replacing → σ → Value × σ) (state : σ)
    (inOrder : targets.Pairwise fun first later => ¬first.location <+: later.location)
    (present : ∀ target ∈ targets, (tree.resolve? target.location).isSome) :
    ∃ log last final, Serves replacement targets tree state log last final := by
  induction targets generalizing tree state with
  | nil => exact ⟨[], tree, state, .done tree state⟩
  | cons target rest ih =>
    obtain ⟨before, restInOrder⟩ := List.pairwise_cons.mp inOrder
    obtain ⟨current, reached⟩ := Option.isSome_iff_exists.mp (present target List.mem_cons_self)
    generalize answer : replacement ⟨current, tree, target.path⟩ state = answered
    obtain ⟨value, next⟩ := answered
    obtain ⟨after, written⟩ := Value.write?_isSome value reached
    have still : ∀ later ∈ rest, (after.resolve? later.location).isSome := by
      intro later inside
      rw [Value.isSome_write?_notAbove written (before later inside)]
      exact present later (List.mem_cons_of_mem _ inside)
    obtain ⟨log, last, final, serves⟩ := ih next restInOrder still
    exact ⟨_, last, final, .call reached answer written serves⟩

theorem Serves.result (serves : Serves replacement targets tree state log last final) :
    replaceTargets replacement targets tree state = (last, final) := by
  induction serves with
  | done => rfl
  | call present answer written later ih => simp only [replaceTargets, present, answer, written, Option.getD_some, ih]

theorem Serves.record (serves : Serves replacement targets tree state log last final) (calls : List Call) :
    replaceTargets (recorded replacement) targets tree (state, calls) = (last, final, calls ++ log.calls) := by
  induction serves generalizing calls with
  | done => simp [replaceTargets, CallLog.calls]
  | call present answer written later ih =>
    simp [replaceTargets, recorded, present, answer, written, ih, CallLog.calls]

theorem Serves.locations (serves : Serves replacement targets tree state log last final) :
    log.map Prod.fst = targets.map Target.location := by
  induction serves with
  | done => rfl
  | call present answer written later ih => simp only [List.map_cons, ih]

theorem writeEach?_cons : tree.writeEach? (CallLog.writes ((location, call) :: log)) =
    (tree.write? location call.returned).bind (·.writeEach? log.writes) := rfl

theorem Serves.written (serves : Serves replacement targets tree state log last final) :
    tree.writeEach? log.writes = some last := by
  induction serves with
  | done => rfl
  | call present answer written later ih =>
    rw [writeEach?_cons, written, Option.bind_some, ih]

-- A call is given the tree with the writes before it, and the part of it at its location.
theorem Serves.given (serves : Serves replacement targets tree state log last final)
    (split : log = earlier ++ (location, call) :: later) :
    tree.writeEach? earlier.writes = some call.given.tree ∧
      call.given.tree.resolve? location = some call.given.current ∧
      ∃ target ∈ targets, target.location = location ∧ target.path = call.given.path := by
  induction serves generalizing earlier with
  | done => cases earlier <;> cases split
  | call present answer written later ih =>
    cases earlier with
    | nil =>
      cases split
      exact ⟨rfl, present, _, List.mem_cons_self, rfl, rfl⟩
    | cons first earlier =>
      obtain ⟨isFirst, behind⟩ := List.cons.inj split
      cases isFirst
      obtain ⟨isTree, isPart, target, inside, same⟩ := ih behind
      refine ⟨?_, isPart, target, List.mem_cons_of_mem _ inside, same⟩
      rw [writeEach?_cons, written, Option.bind_some, isTree]

-- What is known of a call behind others: it is given the tree with what they gave back in its places,
-- and the part of it at the location, which is the part that was found there with the replacements
-- strictly below it; and the full path of the first match there.
structure Path.CallFits (labels : Option String) (path : Path) (tree : Value) (earlier : CallLog)
    (location : Location) (call : Call) : Prop where
  seesTree : tree.writeEach? earlier.writes = some call.given.tree
  seesPart : call.given.tree.resolve? location = some call.given.current
  seesBelow : ∃ part, tree.resolve? location = some part ∧
    part.writeEach? (Value.writesBelow location earlier.writes) = some call.given.current
  seesPath : ∃ m, firstAt? (path.find labels tree) location = some m ∧ call.given.path = m.fullPath

-- There is one call for each location that the path finds, deeper ones first, and what the calls give
-- back is written place by place. Keeping a record of the calls changes neither them nor the result.
theorem updateWith_calls (valid : tree.WellFormed) (replacement : Replacing → σ → Value × σ) (state : σ) :
    ∃ (log : CallLog) (last : Value) (final : σ),
      path.updateWith labels replacement tree state = (last, final) ∧
      path.updateWith labels (recorded replacement) tree (state, []) = (last, final, log.calls) ∧
      (∀ location, location ∈ log.map Prod.fst ↔ path.Finds labels tree location) ∧
      (log.map Prod.fst).Nodup ∧
      (log.map Prod.fst).Pairwise (Ahead (path.find labels tree)) ∧
      tree.writeEach? log.writes = some last ∧
      ∀ (earlier : CallLog) location call later, log = earlier ++ (location, call) :: later →
        path.CallFits labels tree earlier location call := by
  have present : ∀ target ∈ path.targets labels tree, (tree.resolve? target.location).isSome := by
    intro target listed
    obtain ⟨part, found⟩ := finds_resolves valid (mem_targets.mp (List.mem_map_of_mem listed))
    simp [found]
  obtain ⟨log, last, final, serves⟩ := serves_all replacement state targets_pairwise present
  have ahead : (log.map Prod.fst).Pairwise (Ahead (path.find labels tree)) := by
    rw [serves.locations]
    exact List.pairwise_map.mpr targets_ahead
  refine ⟨log, last, final, serves.result, ?_, ?_, ?_, ahead, serves.written, ?_⟩
  · exact serves.record []
  · intro location
    rw [serves.locations, mem_targets]
  · refine ahead.imp fun {a b} isAhead same => ?_
    subst same
    exact isAhead.notAbove List.prefix_rfl
  · intro earlier location call later split
    obtain ⟨isTree, isPart, target, listed, rfl, same⟩ := serves.given split
    have notAbove : ∀ write ∈ earlier.writes, ¬write.1 <+: target.location := by
      intro write inside
      obtain ⟨entry, listed, rfl⟩ := List.mem_map.mp inside
      rw [split, List.map_append, List.map_cons] at ahead
      have isAhead := (List.pairwise_append.mp ahead).2.2 entry.1 (List.mem_map_of_mem listed)
        target.location List.mem_cons_self
      exact isAhead.notAbove
    obtain ⟨part, found⟩ := Option.isSome_iff_exists.mp (present target listed)
    obtain ⟨changed, below, kept⟩ := Value.resolve?_writeEach? isTree notAbove found
    rw [isPart] at kept
    cases kept
    obtain ⟨m, isFirst, isFull⟩ := targets_first listed
    exact ⟨isTree, isPart, ⟨part, found, below⟩, m, isFirst, same.symm.trans isFull⟩

-- Three matches at two places, one within the other: two calls, as a replacement that counts them shows.
theorem updateWith_calls_counted :
    let tree := Value.object [("a", .object [("b", .null)]), ("c", .boolean true)]
    let path := Path.union [.field "a", .child (.field "a") (.field "b"), .field "a"]
    let count : Replacing → Nat → Value × Nat := fun given n => (.array [given.current], n + 1)
    tree.WellFormed ∧ ∃ (log : CallLog) (last : Value),
      path.updateWith none (recorded count) tree (0, []) = (last, 2, log.calls) ∧
      (∀ location, location ∈ log.map Prod.fst ↔ path.Finds none tree location) ∧
      tree.writeEach? log.writes = some last := by
  intro tree path count
  have valid : tree.WellFormed :=
    ⟨by simp [tree, Value.UniqueNames, Value.MembersUnique], by simp [tree, Value.Sized, Value.MembersSized]⟩
  have counted : (path.updateWith none count tree 0).2 = 2 := by decide +kernel
  obtain ⟨log, last, final, run, record, places, _, _, written, _⟩ := updateWith_calls valid count 0
  rw [run] at counted
  cases counted
  exact ⟨valid, log, last, record, places, written⟩

end TreePath
