import TreePath.Proofs.Match.Walk
namespace TreePath

-- Such a link leads to no part of the tree, nor does any link below it.
def Link.isMadeUp (link : Link) : Bool := link.isLabel || link.segment.isComputed

namespace Match

-- Chains as searches in a tree build them, nearest link first. A link either goes one step down
-- from its context, or repeats a context that is no array, or is made up.
inductive Grown (tree : Value) : List Link → Prop where
  | this : Grown tree [⟨tree, .this, false⟩]
  | root : Grown tree [⟨tree, .root, false⟩]
  | member {link : Link} {above : List Link} {members : List (String × Value)} {name : String}
      {part : Value} (context : link.value = .object members) (present : (name, part) ∈ members)
      (grown : Grown tree (link :: above)) :
      Grown tree (⟨part, .field name, false⟩ :: link :: above)
  | element {link : Link} {above : List Link} {items : List Value} {position : Nat} {part : Value}
      (context : link.value = .array items) (present : items[position]? = some part)
      (grown : Grown tree (link :: above)) :
      Grown tree (⟨part, .index (Int64.ofNat position), false⟩ :: link :: above)
  | whole {link : Link} {above : List Link} (noArray : link.value.isArray = false)
      (filled : link.value.isNull = false) (grown : Grown tree (link :: above)) :
      Grown tree (⟨link.value, .index 0, false⟩ :: link :: above)
  | madeUp {new link : Link} {above : List Link} (madeUp : new.isMadeUp = true)
      (grown : Grown tree (link :: above)) : Grown tree (new :: link :: above)

variable {labels : Option String} {path : Path} {m next : Match} {tree : Value} {link : Link}
  {above chain links : List Link} {context : Option Value} {location : Location}

theorem Grown.upward (grown : Grown tree (link :: above)) (more : above ≠ []) :
    Grown tree above := by
  cases grown with
  | this => exact absurd rfl more
  | root => exact absurd rfl more
  | member _ _ grown => exact grown
  | element _ _ grown => exact grown
  | whole _ _ grown => exact grown
  | madeUp _ grown => exact grown

theorem Grown.last (grown : Grown tree chain) : chain.getLast?.map Link.value = some tree := by
  induction grown with
  | this => rfl
  | root => rfl
  | member _ _ _ ih => simpa using ih
  | element _ _ _ ih => simpa using ih
  | whole _ _ _ ih => simpa using ih
  | madeUp _ _ ih => simpa using ih

theorem Grown.first (grown : Grown tree m.links) : m.first.value = tree := by
  have last := grown.last
  simpa [links, Match.first, List.getLast?_cons] using last

theorem grown_of_moves (grown : Grown tree m.links) (move : Moves labels m next) :
    Grown tree next.links := by
  cases move with
  | top =>
    have value : m.first.value = tree := grown.first
    simp only [top, value]
    exact .root
  | up context =>
    obtain ⟨link, above⟩ := m
    cases above with
    | nil => cases context
    | cons first rest =>
      cases Option.some.inj context
      exact grown.upward (List.cons_ne_nil _ _)
  | member value present => exact .member value present grown
  | element value present => exact .element value present grown
  | whole noArray filled => exact .whole noArray filled grown
  | label named => exact .madeUp (by simp [label, Link.isMadeUp]) grown
  | computed computed => exact .madeUp (by simp [select, Link.isMadeUp, computed]) grown

theorem grown_of_mem_find (found : m ∈ path.find labels tree) : Grown tree m.links :=
  keeps_of_moves (fun _ _ grown move => grown_of_moves grown move) .this found

-- `locateFrom` goes down from the top; this is the same, but its recursion is that of `Grown`.
def located : List Link → Option Location
  | [] => some []
  | link :: above =>
    (located above).bind fun location => stepFrom (above.head?.map Link.value) location link

theorem locateFrom_append : locateFrom context location (links ++ [link]) =
    (locateFrom context location links).bind fun reached =>
      stepFrom ((links.getLast?.map Link.value).or context) reached link := by
  induction links generalizing context location with
  | nil => simp [locateFrom]
  | cons first rest ih =>
    simp only [List.cons_append, locateFrom, Option.bind_assoc]
    congr 1
    funext reached
    rw [ih]
    cases rest with
    | nil => simp
    | cons second rest =>
      obtain ⟨last, same⟩ := List.getLast?_isSome.mpr (List.cons_ne_nil second rest) |> Option.isSome_iff_exists.mp
      rw [List.getLast?_cons_cons, same]
      rfl

theorem location?_eq_located : m.location? = located m.links := by
  unfold location?
  induction m.links with
  | nil => rfl
  | cons link above ih =>
    rw [List.reverse_cons, locateFrom_append, ih, List.getLast?_reverse, Option.or_none]
    rfl

theorem stepFrom_of_madeUp (madeUp : link.isMadeUp = true) : stepFrom context location link = none := by
  obtain ⟨value, segment, isLabel⟩ := link
  cases isLabel with
  | true => simp [stepFrom]
  | false =>
    have computed : segment.isComputed = true := by simpa [Link.isMadeUp] using madeUp
    cases segment <;> simp_all [stepFrom, Path.isComputed]

theorem stepFrom_whole {value : Value} (noArray : value.isArray = false) :
    stepFrom (some value) location ⟨value, .index 0, false⟩ = some location := by
  cases value with
  | array items => cases noArray
  | _ => rfl

theorem located_of_madeUp (present : link ∈ chain) (madeUp : link.isMadeUp = true) :
    located chain = none := by
  induction chain with
  | nil => cases present
  | cons first above ih =>
    rw [located]
    rcases List.mem_cons.mp present with rfl | later
    · simp only [stepFrom_of_madeUp madeUp]
      cases located above <;> rfl
    · rw [ih later, Option.bind_none]

-- The induction is on the chain: the location of the context leads to the value of the context, and
-- the step of the link leads on from there to the value of the link.
theorem located_of_grown (valid : tree.WellFormed) (grown : Grown tree chain)
    (real : ∀ link ∈ chain, link.isMadeUp = false) :
    ∃ location, located chain = some location ∧
      tree.resolve? location = chain.head?.map Link.value := by
  induction grown with
  | this => exact ⟨[], rfl, rfl⟩
  | root => exact ⟨[], rfl, rfl⟩
  | @member link above members name part context present grown ih =>
    obtain ⟨location, reached, resolved⟩ := ih fun link inside => real link (List.mem_cons_of_mem _ inside)
    have here : tree.resolve? location = some (.object members) := by simpa [context] using resolved
    have leads := (valid.resolve here).lookup_of_mem present
    refine ⟨location ++ [.member name], ?_, ?_⟩
    · rw [located, reached, Option.bind_some]
      rfl
    · rw [Value.resolve?_append, here]
      simpa [Value.resolve?_cons, Value.child?] using leads
  | @element link above items position part context present grown ih =>
    obtain ⟨location, reached, resolved⟩ := ih fun link inside => real link (List.mem_cons_of_mem _ inside)
    have here : tree.resolve? location = some (.array items) := by simpa [context] using resolved
    have index := (valid.resolve here).position_toInt present
    refine ⟨location ++ [.element position], ?_, ?_⟩
    · rw [located, reached, Option.bind_some]
      simp [stepFrom, context, index]
    · rw [Value.resolve?_append, here]
      simpa [Value.resolve?_cons, Value.child?] using present
  | @whole link above noArray filled grown ih =>
    obtain ⟨location, reached, resolved⟩ := ih fun link inside => real link (List.mem_cons_of_mem _ inside)
    refine ⟨location, ?_, resolved⟩
    rw [located, reached, Option.bind_some]
    exact stepFrom_whole noArray
  | madeUp madeUp grown ih =>
    have real := real _ List.mem_cons_self
    rw [madeUp] at real
    cases real

theorem location?_eq_none_iff (valid : tree.WellFormed) (found : m ∈ path.find labels tree) :
    m.location? = none ↔ ∃ link ∈ m.links, link.isMadeUp = true := by
  rw [location?_eq_located]
  constructor
  · intro nowhere
    refine Classical.byContradiction fun none => ?_
    have real : ∀ link ∈ m.links, link.isMadeUp = false := by simpa using none
    obtain ⟨location, somewhere, _⟩ := located_of_grown valid (grown_of_mem_find found) real
    rw [nowhere] at somewhere
    cases somewhere
  · rintro ⟨link, inside, madeUp⟩
    exact located_of_madeUp inside madeUp

theorem real_of_location? (valid : tree.WellFormed) (found : m ∈ path.find labels tree)
    (somewhere : m.location? = some location) : ∀ link ∈ m.links, link.isMadeUp = false := by
  intro link inside
  cases madeUp : link.isMadeUp with
  | false => rfl
  | true =>
    have nowhere := (location?_eq_none_iff valid found).mpr ⟨link, inside, madeUp⟩
    rw [somewhere] at nowhere
    cases nowhere

theorem resolve?_location? (valid : tree.WellFormed) (found : m ∈ path.find labels tree)
    (somewhere : m.location? = some location) : tree.resolve? location = some m.value := by
  have real := real_of_location? valid found somewhere
  obtain ⟨reached, same, resolved⟩ := located_of_grown valid (grown_of_mem_find found) real
  rw [location?_eq_located, same] at somewhere
  cases Option.some.inj somewhere
  exact resolved

-- A match is nowhere in the tree exactly if a link of its chain is a label or was computed, and
-- otherwise its location leads to its value.
theorem location?_exact (valid : tree.WellFormed) (found : m ∈ path.find labels tree) :
    (m.location? = none ↔ ∃ link ∈ m.links, link.isLabel = true ∨ link.segment.isComputed = true) ∧
      ∀ location, m.location? = some location → tree.resolve? location = some m.value := by
  refine ⟨?_, fun location somewhere => resolve?_location? valid found somewhere⟩
  rw [location?_eq_none_iff valid found]
  simp only [Link.isMadeUp, Bool.or_eq_true]

-- A match behind an index that counts from the end.
theorem location?_exact_last :
    let tree := Value.object [("a", .array [.null, .object [("b", .boolean true)]])]
    let path := Path.child (.child (.field "a") (.index (-1))) (.field "b")
    let location := [Step.member "a", .element 1, .member "b"]
    ∃ m, tree.WellFormed ∧ m ∈ path.find none tree ∧ m.location? = some location ∧
      tree.resolve? location = some m.value := by
  intro tree path location
  have valid : tree.WellFormed :=
    ⟨by simp [tree, Value.UniqueNames, Value.ItemsUnique, Value.MembersUnique],
      by simp [tree, Value.Sized, Value.ItemsSized, Value.MembersSized, Integer.highest]⟩
  have only : path.find none tree = [⟨⟨.boolean true, .field "b", false⟩,
      [⟨.object [("b", .boolean true)], .index 1, false⟩,
        ⟨.array [.null, .object [("b", .boolean true)]], .field "a", false⟩,
        ⟨tree, .this, false⟩]⟩] := rfl
  have found := only ▸ List.mem_singleton_self _
  exact ⟨_, valid, found, rfl, (location?_exact valid found).2 location rfl⟩

end Match

end TreePath
