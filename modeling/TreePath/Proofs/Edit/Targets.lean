import TreePath.Edit.Update
import TreePath.Proofs.Sorting.Insertion
namespace TreePath

variable {labels : Option String} {path : Path} {tree : Value} {location : Location}
  {seen : List Location} {targets : List Target} {target : Target} {m : Match} {found rest : List Match}

-- The locations a path finds: those of the matches that have one.
def Path.Finds (labels : Option String) (path : Path) (tree : Value) (location : Location) : Prop :=
  ∃ m ∈ path.find labels tree, m.location? = some location

-- The place of the first match at a location.
def rank (found : List Match) (location : Location) : Nat :=
  found.findIdx fun m => decide (m.location? = some location)

def firstAt? (found : List Match) (location : Location) : Option Match :=
  found.find? fun m => decide (m.location? = some location)

theorem mem_distinctTargets : location ∈ (distinctTargets seen targets).map Target.location ↔
    location ∈ targets.map Target.location ∧ location ∉ seen := by
  induction targets generalizing seen with
  | nil => simp [distinctTargets]
  | cons target rest ih =>
    unfold distinctTargets
    split
    · rename_i known
      have known : target.location ∈ seen := by simpa using known
      rw [ih, List.map_cons, List.mem_cons]
      constructor
      · exact fun ⟨later, new⟩ => ⟨.inr later, new⟩
      · rintro ⟨rfl | later, new⟩
        · exact absurd known new
        · exact ⟨later, new⟩
    · rename_i unknown
      have unknown : target.location ∉ seen := by simpa using unknown
      rw [List.map_cons, List.mem_cons, ih, List.map_cons, List.mem_cons, List.mem_cons, not_or]
      constructor
      · rintro (rfl | ⟨later, differs, new⟩)
        · exact ⟨.inl rfl, unknown⟩
        · exact ⟨.inr later, new⟩
      · rintro ⟨here | later, new⟩
        · exact .inl here
        · by_cases same : location = target.location
          · exact .inl same
          · exact .inr ⟨later, same, new⟩

theorem location_of_mem_distinctTargets (present : target ∈ distinctTargets seen targets) :
    target.location ∉ seen :=
  (mem_distinctTargets.mp (List.mem_map_of_mem present)).2

-- A match is passed over if it is nowhere or its location is known, and becomes a target otherwise; the
-- targets behind it are elsewhere in either case.
theorem distinctTargets_cons (seen : List Location) (m : Match) (rest : List Match) :
    (distinctTargets seen ((m :: rest).filterMap Match.target?) =
        distinctTargets seen (rest.filterMap Match.target?) ∧
      ∀ target ∈ distinctTargets seen (rest.filterMap Match.target?), m.location? ≠ some target.location) ∨
    ∃ location, m.location? = some location ∧
      distinctTargets seen ((m :: rest).filterMap Match.target?) =
        ⟨location, m.fullPath⟩ :: distinctTargets (location :: seen) (rest.filterMap Match.target?) ∧
      ∀ target ∈ distinctTargets (location :: seen) (rest.filterMap Match.target?),
        m.location? ≠ some target.location := by
  cases somewhere : m.location? with
  | none =>
    have passed : m.target? = none := by simp [Match.target?, somewhere]
    exact .inl ⟨by rw [List.filterMap_cons_none passed], fun _ _ => nofun⟩
  | some location =>
    have taken : m.target? = some ⟨location, m.fullPath⟩ := by simp [Match.target?, somewhere]
    rw [List.filterMap_cons_some taken, distinctTargets]
    by_cases known : location ∈ seen
    · refine .inl ⟨if_pos (by simpa using known), fun target present here => ?_⟩
      cases Option.some.inj here
      exact location_of_mem_distinctTargets present known
    · refine .inr ⟨location, rfl, if_neg (by simpa using known), fun target present here => ?_⟩
      cases Option.some.inj here
      exact location_of_mem_distinctTargets present List.mem_cons_self

theorem rank_cons (elsewhere : m.location? ≠ some location) :
    rank (m :: rest) location = rank rest location + 1 := by
  simp [rank, List.findIdx_cons, elsewhere]

theorem rank_self (here : m.location? = some location) : rank (m :: rest) location = 0 := by
  simp [rank, List.findIdx_cons, here]

theorem firstAt?_cons (elsewhere : m.location? ≠ some location) :
    firstAt? (m :: rest) location = firstAt? rest location := by
  simp [firstAt?, elsewhere]

theorem firstAt?_self (here : m.location? = some location) : firstAt? (m :: rest) location = some m := by
  simp [firstAt?, here]

theorem distinctTargets_ranked : (distinctTargets seen (found.filterMap Match.target?)).Pairwise
    fun a b => rank found a.location < rank found b.location := by
  induction found generalizing seen with
  | nil => exact .nil
  | cons m rest ih =>
    rcases distinctTargets_cons seen m rest with ⟨same, elsewhere⟩ | ⟨location, here, same, elsewhere⟩
    · rw [same]
      refine ih.imp_of_mem fun {a b} inA inB less => ?_
      rw [rank_cons (elsewhere a inA), rank_cons (elsewhere b inB)]
      exact Nat.succ_lt_succ less
    · rw [same]
      refine List.pairwise_cons.mpr ⟨fun target present => ?_, ih.imp_of_mem fun {a b} inA inB less => ?_⟩
      · rw [rank_cons (elsewhere target present), rank_self here]
        exact Nat.succ_pos _
      · rw [rank_cons (elsewhere a inA), rank_cons (elsewhere b inB)]
        exact Nat.succ_lt_succ less

theorem distinctTargets_first (present : target ∈ distinctTargets seen (found.filterMap Match.target?)) :
    ∃ m, firstAt? found target.location = some m ∧ target.path = m.fullPath := by
  induction found generalizing seen with
  | nil => cases present
  | cons m rest ih =>
    rcases distinctTargets_cons seen m rest with ⟨same, elsewhere⟩ | ⟨location, here, same, elsewhere⟩
    · rw [same] at present
      rw [firstAt?_cons (elsewhere target present)]
      exact ih present
    · rw [same] at present
      rcases List.mem_cons.mp present with rfl | later
      · exact ⟨m, firstAt?_self here, rfl⟩
      · rw [firstAt?_cons (elsewhere target later)]
        exact ih later

theorem mem_targets : location ∈ (path.targets labels tree).map Target.location ↔
    path.Finds labels tree location := by
  rw [Path.targets, (Sorting.sort_perm.map Target.location).mem_iff, mem_distinctTargets]
  simp only [List.not_mem_nil, not_false_eq_true, and_true, List.mem_map, List.mem_filterMap,
    Path.Finds]
  constructor
  · rintro ⟨target, ⟨m, found, made⟩, rfl⟩
    obtain ⟨location, somewhere, rfl⟩ := Option.map_eq_some_iff.mp made
    exact ⟨m, found, somewhere⟩
  · rintro ⟨m, found, somewhere⟩
    exact ⟨⟨location, m.fullPath⟩, ⟨m, found, by simp [Match.target?, somewhere]⟩, rfl⟩

theorem orderByDepth_ne_lt {a b : Target} :
    orderByDepth a b ≠ .lt ↔ a.location.length ≤ b.location.length := by
  unfold orderByDepth compareInt
  split <;> rename_i less
  · simp; omega
  · split <;> simp <;> omega

theorem orderByDepth_weak (targets : List Target) : Sorting.Weak orderByDepth targets where
  asymm a _ b _ less := by
    have notLess : ¬a.location.length ≤ b.location.length := fun h => orderByDepth_ne_lt.mpr h less
    exact orderByDepth_ne_lt.mpr (by omega)
  trans a _ b _ c _ first second :=
    orderByDepth_ne_lt.mpr (Nat.le_trans (orderByDepth_ne_lt.mp first) (orderByDepth_ne_lt.mp second))

-- Deeper locations come before others, and of those equally deep the one that was found first.
def Ahead (found : List Match) (a b : Location) : Prop :=
  b.length < a.length ∨ a.length = b.length ∧ rank found a < rank found b

theorem Ahead.notAbove {a b : Location} (ahead : Ahead found a b) : ¬a <+: b := by
  intro above
  rcases ahead with deeper | ⟨same, earlier⟩
  · exact absurd above.length_le (by omega)
  · rw [above.eq_of_length same] at earlier
    exact Nat.lt_irrefl _ earlier

theorem targets_ahead : (path.targets labels tree).Pairwise
    fun a b => Ahead (path.find labels tree) a.location b.location := by
  refine (Sorting.sort_stable (orderByDepth_weak _) distinctTargets_ranked).imp ?_
  rintro a b (less | ⟨notLess, earlier⟩)
  · have notLe : ¬a.location.length ≤ b.location.length := fun h => orderByDepth_ne_lt.mpr h less
    exact .inl (by omega)
  · have le := orderByDepth_ne_lt.mp notLess
    by_cases same : a.location.length = b.location.length
    · exact .inr ⟨same, earlier⟩
    · exact .inl (by omega)

theorem targets_first (listed : target ∈ path.targets labels tree) :
    ∃ m, firstAt? (path.find labels tree) target.location = some m ∧ target.path = m.fullPath :=
  distinctTargets_first (Sorting.sort_perm.mem_iff.mp listed)

-- No target is at or above a later one.
theorem targets_pairwise : (path.targets labels tree).Pairwise
    (fun first later => ¬first.location <+: later.location) :=
  targets_ahead.imp Ahead.notAbove

end TreePath
