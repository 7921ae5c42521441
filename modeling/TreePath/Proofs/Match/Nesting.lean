import TreePath.Proofs.Match.Weaving
namespace TreePath.Match

-- A link of one of three chains, by its number: of the chain of a match, or of those of two contexts
-- it is put under.
inductive Origin where
  | own (i : Nat)
  | first (i : Nat)
  | second (i : Nat)

namespace Origin

-- How far below the value a link comes to stand if the match is put under the two contexts in turn.
def placeInTurn (own first second : List Link) : Origin → Nat
  | .own i =>
    let place := i + min i first.length
    place + min place second.length
  | .first i =>
    let place := i + min (i + 1) own.length
    place + min place second.length
  | .second i => i + min (i + 1) (own.length + first.length)

-- And if the first context is itself put under the second one before.
def placeNested (own first second : List Link) : Origin → Nat
  | .own i => i + min i (first.length + second.length)
  | .first i =>
    let place := i + min i second.length
    place + min (place + 1) own.length
  | .second i =>
    let place := i + min (i + 1) first.length
    place + min (place + 1) own.length

-- The link as it then is: each of the two steps rebases the last link of one chain.
def linkInTurn (p₁ p₂ : Path) (own first second : List Link) : Origin → Option Link
  | .own i => own[i]?.map fun link =>
    rebasedIf (i + min i first.length + 1 = own.length + first.length ∧
        own.length + first.length ≤ second.length) p₂
      (rebasedIf (i + 1 = own.length ∧ own.length ≤ first.length) p₁ link)
  | .first i => first[i]?.map fun link =>
    rebasedIf (i + min (i + 1) own.length + 1 = own.length + first.length ∧
        own.length + first.length ≤ second.length) p₂
      (rebasedIf (i + 1 = first.length ∧ first.length < own.length) p₁ link)
  | .second i => second[i]?.map fun link =>
    rebasedIf (i + 1 = second.length ∧ second.length < own.length + first.length) p₂ link

def linkNested (p₁ p₂ : Path) (own first second : List Link) : Origin → Option Link
  | .own i => own[i]?.map fun link =>
    rebasedIf (i + 1 = own.length ∧ own.length ≤ first.length + second.length) p₁ link
  | .first i => first[i]?.map fun link =>
    rebasedIf (i + min i second.length + 1 = first.length + second.length ∧
        first.length + second.length < own.length) p₁
      (rebasedIf (i + 1 = first.length ∧ first.length ≤ second.length) p₂ link)
  | .second i => second[i]?.map fun link =>
    rebasedIf (i + min (i + 1) first.length + 1 = first.length + second.length ∧
        first.length + second.length < own.length) p₁
      (rebasedIf (i + 1 = second.length ∧ second.length < first.length) p₂ link)

end Origin

variable {p₁ p₂ : Path} {own first second as bs : List Link} {m a b : Match} {place : Nat}
  {found : Link}

theorem getElem?_inTurn : (joined p₂ (joined p₁ own first) second)[place]? = some found ↔
    ∃ origin : Origin, origin.placeInTurn own first second = place ∧
      origin.linkInTurn p₁ p₂ own first second = some found := by
  rw [getElem?_joined]
  constructor
  · rintro (⟨i, link, here, rfl, rfl⟩ | ⟨i, link, here, rfl, rfl⟩)
    · rcases getElem?_joined.mp here with ⟨i, link, held, rfl, rfl⟩ | ⟨i, link, held, rfl, rfl⟩
      · exact ⟨.own i, rfl, by simp [Origin.linkInTurn, held]⟩
      · exact ⟨.first i, rfl, by simp [Origin.linkInTurn, held]⟩
    · exact ⟨.second i, by simp [Origin.placeInTurn], by simp [Origin.linkInTurn, here]⟩
  · rintro ⟨origin, rfl, stands⟩
    cases origin with
    | own i =>
      obtain ⟨link, held, rfl⟩ := Option.map_eq_some_iff.mp stands
      refine .inl ⟨_, _, getElem?_joined.mpr (.inl ⟨i, link, held, rfl, rfl⟩), rfl, ?_⟩
      simp
    | first i =>
      obtain ⟨link, held, rfl⟩ := Option.map_eq_some_iff.mp stands
      refine .inl ⟨_, _, getElem?_joined.mpr (.inr ⟨i, link, held, rfl, rfl⟩), rfl, ?_⟩
      simp
    | second i =>
      obtain ⟨link, held, rfl⟩ := Option.map_eq_some_iff.mp stands
      exact .inr ⟨i, link, held, by simp [Origin.placeInTurn], by simp⟩

theorem getElem?_nested : (joined p₁ own (joined p₂ first second))[place]? = some found ↔
    ∃ origin : Origin, origin.placeNested own first second = place ∧
      origin.linkNested p₁ p₂ own first second = some found := by
  rw [getElem?_joined]
  constructor
  · rintro (⟨i, link, here, rfl, rfl⟩ | ⟨i, link, here, rfl, rfl⟩)
    · exact ⟨.own i, by simp [Origin.placeNested], by simp [Origin.linkNested, here]⟩
    · rcases getElem?_joined.mp here with ⟨i, link, held, rfl, rfl⟩ | ⟨i, link, held, rfl, rfl⟩
      · exact ⟨.first i, rfl, by simp [Origin.linkNested, held]⟩
      · exact ⟨.second i, rfl, by simp [Origin.linkNested, held]⟩
  · rintro ⟨origin, rfl, stands⟩
    cases origin with
    | own i =>
      obtain ⟨link, held, rfl⟩ := Option.map_eq_some_iff.mp stands
      exact .inl ⟨i, link, held, by simp [Origin.placeNested], by simp⟩
    | first i =>
      obtain ⟨link, held, rfl⟩ := Option.map_eq_some_iff.mp stands
      refine .inr ⟨_, _, getElem?_joined.mpr (.inl ⟨i, link, held, rfl, rfl⟩), rfl, ?_⟩
      simp
    | second i =>
      obtain ⟨link, held, rfl⟩ := Option.map_eq_some_iff.mp stands
      refine .inr ⟨_, _, getElem?_joined.mpr (.inr ⟨i, link, held, rfl, rfl⟩), rfl, ?_⟩
      simp

-- Two lists of links agree if they agree place by place, whichever way two links are compared.
theorem eq_iff_places (length : as.length = bs.length) :
    as = bs ↔ ∀ (place : Nat) (x y : Link), as[place]? = some x → bs[place]? = some y → x = y := by
  constructor
  · rintro rfl place x y left right
    rw [left] at right
    exact Option.some.inj right
  · intro agree
    refine List.ext_getElem length fun place left right => ?_
    exact agree place _ _ (List.getElem?_eq_getElem left) (List.getElem?_eq_getElem right)

theorem sameLinks_iff_places (length : as.length = bs.length) :
    sameLinks as bs = true ↔
      ∀ (place : Nat) (x y : Link), as[place]? = some x → bs[place]? = some y → sameLink x y = true := by
  induction as generalizing bs with
  | nil =>
    cases bs with
    | nil => simp [sameLinks]
    | cons b bs => cases length
  | cons a as ih =>
    cases bs with
    | nil => cases length
    | cons b bs =>
      rw [sameLinks, Bool.and_eq_true, ih (by simpa using length)]
      constructor
      · rintro ⟨first, rest⟩ place x y left right
        cases place with
        | zero =>
          cases Option.some.inj left
          cases Option.some.inj right
          exact first
        | succ place => exact rest place x y left right
      · exact fun agree => ⟨agree 0 a b rfl rfl, fun place => agree (place + 1)⟩

-- Two links meet if they come to stand at one place, each in its own way of nesting.
def Meet (agree : Link → Link → Prop) (p₁ p₂ : Path) (own first second : List Link) : Prop :=
  ∀ origin other : Origin,
    origin.placeInTurn own first second = other.placeNested own first second →
    ∀ x y, origin.linkInTurn p₁ p₂ own first second = some x →
      other.linkNested p₁ p₂ own first second = some y → agree x y

theorem places_iff_meet {agree : Link → Link → Prop} :
    (∀ (place : Nat) (x y : Link), (joined p₂ (joined p₁ own first) second)[place]? = some x →
      (joined p₁ own (joined p₂ first second))[place]? = some y → agree x y) ↔
    Meet agree p₁ p₂ own first second := by
  constructor
  · intro byPlace origin other same x y left right
    exact byPlace _ x y (getElem?_inTurn.mpr ⟨origin, rfl, left⟩)
      (getElem?_nested.mpr ⟨other, same.symm, right⟩)
  · intro byOrigin place x y left right
    obtain ⟨origin, here, left⟩ := getElem?_inTurn.mp left
    obtain ⟨other, there, right⟩ := getElem?_nested.mp right
    exact byOrigin origin other (here.trans there.symm) x y left right

theorem ext_links : a = b ↔ a.links = b.links := by
  constructor
  · exact congrArg links
  · intro same
    obtain ⟨link, above⟩ := a
    obtain ⟨link', above'⟩ := b
    obtain ⟨rfl, rfl⟩ := List.cons.inj same
    rfl

theorem links_inTurn : ((m.inContext p₁ a).inContext p₂ b).links =
    joined p₂ (joined p₁ m.links a.links) b.links := by
  rw [links_inContext, links_inContext]

theorem links_nested : (m.inContext p₁ (a.inContext p₂ b)).links =
    joined p₁ m.links (joined p₂ a.links b.links) := by
  rw [links_inContext, links_inContext]

theorem length_inTurn : (joined p₂ (joined p₁ own first) second).length =
    (joined p₁ own (joined p₂ first second)).length := by
  simp only [length_joined]
  omega

theorem inTurn_eq_nested_iff : (m.inContext p₁ a).inContext p₂ b = m.inContext p₁ (a.inContext p₂ b) ↔
    Meet (· = ·) p₁ p₂ m.links a.links b.links := by
  rw [ext_links, links_inTurn, links_nested, eq_iff_places length_inTurn, places_iff_meet]

theorem inTurn_same_nested_iff :
    ((m.inContext p₁ a).inContext p₂ b).same (m.inContext p₁ (a.inContext p₂ b)) = true ↔
      Meet (fun x y => sameLink x y = true) p₁ p₂ m.links a.links b.links := by
  rw [same, links_inTurn, links_nested, sameLinks_iff_places length_inTurn, places_iff_meet]

-- Right above the match stands the second context in the one way and the first one in the other.
theorem value_eq_of_nested (same : (m.inContext p₁ a).inContext p₂ b =
    m.inContext p₁ (a.inContext p₂ b)) : a.value = b.value := by
  have meet := inTurn_eq_nested_iff.mp same (.second 0) (.first 0)
    (by simp [Origin.placeInTurn, Origin.placeNested, links]; omega) _ _ rfl rfl
  have value : ∀ (last : Prop) [Decidable last] path link,
      (rebasedIf last path link).value = link.value := by
    intro last _ path link
    unfold rebasedIf
    split <;> rfl
  have values := congrArg Link.value meet
  rw [value, value, value] at values
  exact values.symm

theorem joined_comm_iff : joined p₂ as bs = joined p₂ bs as ↔
    as = bs ∨ (as.length < bs.length ∧ rebased p₂ as <+: bs) ∨
      (bs.length < as.length ∧ rebased p₂ bs <+: as) := by
  unfold joined
  rcases Nat.lt_trichotomy as.length bs.length with shorter | equal | longer
  · have different : as ≠ bs := by
      rintro rfl
      exact Nat.lt_irrefl _ shorter
    rw [if_pos (by omega), if_neg (by omega), interleave_comm_iff (by simpa using by omega)]
    simp [different, shorter, Nat.lt_asymm shorter]
  · rw [if_pos (by omega), if_pos (by omega), interleave_inj (by simpa using equal) equal.symm]
    simp only [equal, Nat.lt_irrefl, false_and, or_false]
    constructor
    · exact fun same => same.2.symm
    · rintro rfl
      exact ⟨rfl, rfl⟩
  · have different : as ≠ bs := by
      rintro rfl
      exact Nat.lt_irrefl _ longer
    rw [if_neg (by omega), if_pos (by omega), eq_comm,
      interleave_comm_iff (by simpa using by omega)]
    simp [different, longer, Nat.lt_asymm longer]

-- The match stays below all links of its contexts, and only these are still put in order.
theorem joined_single {link : Link} {p : Path} (held : bs ≠ []) :
    joined p [link] bs = { link with segment := p } :: bs := by
  cases bs with
  | nil => exact absurd rfl held
  | cons b bs => simp [joined, rebased, interleave]

theorem rebased_cons {link : Link} {p : Path} (held : as ≠ []) :
    rebased p (link :: as) = link :: rebased p as := by
  cases as with
  | nil => exact absurd rfl held
  | cons a as => rfl

theorem joined_cons {link : Link} {p : Path} (held : as ≠ []) :
    joined p (link :: as) bs = link :: joined p bs as := by
  unfold joined
  rw [rebased_cons held, interleave_cons, interleave_cons, List.length_cons]
  by_cases shorter : as.length + 1 ≤ bs.length
  · rw [if_pos shorter, if_neg (by omega)]
  · rw [if_neg shorter, if_pos (by omega)]

theorem single_inTurn_eq_nested_iff {link : Link} :
    ((Match.mk link []).inContext p₁ a).inContext p₂ b =
      (Match.mk link []).inContext p₁ (a.inContext p₂ b) ↔
    a = b ∨ (a.links.length < b.links.length ∧ rebased p₂ a.links <+: b.links) ∨
      (b.links.length < a.links.length ∧ rebased p₂ b.links <+: a.links) := by
  have held : ∀ context : Match, context.links ≠ [] := fun context => List.cons_ne_nil _ _
  have inner : joined p₂ a.links b.links ≠ [] := by
    rw [← links_inContext]
    exact held _
  rw [ext_links, links_inTurn, links_nested]
  change joined p₂ (joined p₁ [link] a.links) b.links = joined p₁ [link] _ ↔ _
  rw [joined_single (held a), joined_single inner, joined_cons (held a), List.cons_inj_right,
    eq_comm, joined_comm_iff, ← ext_links]

-- Putting a match under two contexts in turn and putting it under the nested contexts give one match
-- exactly if the links agree that meet; for a match that has no chain of its own, exactly if the shorter
-- one of the contexts begins the longer one.
theorem inContext_inContext_exact (p₁ p₂ : Path) (m a b : Match) :
    ((m.inContext p₁ a).inContext p₂ b = m.inContext p₁ (a.inContext p₂ b) ↔
      Meet (· = ·) p₁ p₂ m.links a.links b.links) ∧
    (((m.inContext p₁ a).inContext p₂ b).same (m.inContext p₁ (a.inContext p₂ b)) = true ↔
      Meet (fun x y => sameLink x y = true) p₁ p₂ m.links a.links b.links) ∧
    ∀ link, ((Match.mk link []).inContext p₁ a).inContext p₂ b =
        (Match.mk link []).inContext p₁ (a.inContext p₂ b) ↔
      a = b ∨ (a.links.length < b.links.length ∧ rebased p₂ a.links <+: b.links) ∨
        (b.links.length < a.links.length ∧ rebased p₂ b.links <+: a.links) :=
  ⟨inTurn_eq_nested_iff, inTurn_same_nested_iff, fun _ => single_inTurn_eq_nested_iff⟩

-- Three values with no chain: in turn the second context comes right above the match, and nested the
-- first one does.
theorem inContext_inContext_apart :
    let in_turn := ((Match.start (.integer 1)).inContext (.fields ["x"])
      (Match.start (.integer 2))).inContext (.fields ["y"]) (Match.start (.integer 3))
    let nested := (Match.start (.integer 1)).inContext (.fields ["x"])
      ((Match.start (.integer 2)).inContext (.fields ["y"]) (Match.start (.integer 3)))
    in_turn ≠ nested ∧ in_turn.same nested = false := by
  refine ⟨fun same => ?_, by decide +kernel⟩
  have values : Value.integer 2 = Value.integer 3 := value_eq_of_nested same
  cases values

end TreePath.Match
