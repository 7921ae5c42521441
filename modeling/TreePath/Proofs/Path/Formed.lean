import TreePath.Proofs.Path.Shape
import TreePath.Proofs.Token.Profiles
namespace TreePath

namespace Part

-- The parts a part is directly made of.
def parts : Part → List Part
  | path (.child left right) | path (.descendants left right) | path (.whereSome left right)
  | path (.whereNone left right) => [path left, path right]
  | path (.union alternatives) => alternatives.map path
  | path (.filter conditions) => conditions.map condition
  | path (.sort keys) => keys.map key
  | path (.arithmetic _ left right) => [operand left, operand right]
  | path _ => []
  | condition (.present target) | condition (.compare target _ _) => [path target]
  | key (.mk _ p) => [path p]
  | operand (.path p) => [path p]
  | operand (.literal _) => []

-- Parts at any depth.
inductive Within : Part → Part → Prop where
  | self (whole : Part) : Within whole whole
  | inside (whole part inner : Part) (isPart : part ∈ whole.parts) (within : Within part inner) : Within whole inner

-- What reading makes of a part that it is to be, apart from what its own parts are. A wildcard has no names in any
-- case.
def Sound : Part → Prop
  | path (.fields names) => names ≠ []
  | path (.slice _ _ step) => step ≠ some 0
  | path (.union alternatives) => 2 ≤ alternatives.length ∧
    ∀ first ∈ alternatives.head?, ∀ inner, first ≠ .union inner
  | path (.filter conditions) => conditions ≠ []
  | path (.sort keys) => keys ≠ []
  | path (.named operator) => operator.Valid
  | condition (.compare _ operator literal) => literal.isPattern ↔ operator = .matching
  | operand (.literal (.integer _)) | operand (.literal (.float _)) | operand (.literal (.string _)) => True
  | operand (.literal _) => False
  | operand (.path p) => ∀ name, p ≠ .field name
  | _ => True

-- Parts that the core grammar has.
def IsCore : Part → Prop
  | path (.filter _) | path (.sort _) | path (.arithmetic _ _ _) | path (.named _) => False
  | _ => True

def Formed (profile : Profile) (part : Part) : Prop := part.Sound ∧ (profile = .core → part.IsCore)

end Part

variable {whole part inner : Part} {P : Part → Prop} {left right p : Path}

theorem Shaped.sound (shaped : Shaped part) : part.Sound := by
  cases shaped with
  | fields first others => exact List.cons_ne_nil first others
  | slice start stop step moves => exact moves
  | union first second others apart =>
    refine ⟨by simp, ?_⟩
    rintro _ ⟨⟩
    exact apart
  | filter first others => exact List.cons_ne_nil first others
  | sort first others => exact List.cons_ne_nil first others
  | named operator valid => exact valid
  | compare target operator literal isTarget suits =>
    change literal.isPattern ↔ operator = .matching
    simp [suits]
  | operand p several => exact several
  | _ => trivial

theorem Shaped.inward (shaped : Shaped whole) (isPart : part ∈ whole.parts) : Shaped part := by
  cases shaped with
  | child left right isLeft isRight | descendants left right isLeft isRight | whereSome left right isLeft isRight
  | whereNone left right isLeft isRight | arithmetic operator left right isLeft isRight =>
    simp only [Part.parts, List.mem_cons, List.not_mem_nil, or_false] at isPart
    rcases isPart with rfl | rfl
    · exact isLeft
    · exact isRight
  | union first second others apart all | filter first others all | sort first others all =>
    obtain ⟨inner, here, rfl⟩ := List.mem_map.mp isPart
    exact all inner here
  | present target isTarget | compare target operator literal isTarget | key direction p isTarget
  | operand p several isTarget =>
    cases List.mem_singleton.mp isPart
    exact isTarget
  | _ => cases isPart

theorem Shaped.within (shaped : Shaped whole) (within : whole.Within inner) : Shaped inner := by
  induction within with
  | self => exact shaped
  | inside whole part inner isPart within ih => exact ih (shaped.inward isPart)

-- What holds of a part and of all that is within it.
def Part.Throughout (P : Part → Prop) (whole : Part) : Prop := ∀ inner, whole.Within inner → P inner

theorem throughout_iff : whole.Throughout P ↔ P whole ∧ ∀ part ∈ whole.parts, part.Throughout P := by
  constructor
  · intro all
    refine ⟨all whole (.self whole), fun part isPart inner within => ?_⟩
    exact all inner (.inside whole part inner isPart within)
  · rintro ⟨here, inside⟩ inner within
    cases within with
    | self => exact here
    | inside _ part _ isPart within => exact inside part isPart inner within

theorem throughout_pair (here : P whole) (parts : whole.parts = [.path left, .path right])
    (isLeft : (Part.path left).Throughout P) (isRight : (Part.path right).Throughout P) : whole.Throughout P := by
  rw [throughout_iff, parts]
  refine ⟨here, fun part isPart => ?_⟩
  simp only [List.mem_cons, List.not_mem_nil, or_false] at isPart
  rcases isPart with rfl | rfl
  · exact isLeft
  · exact isRight

theorem throughout_single (here : P whole) (parts : whole.parts = []) : whole.Throughout P := by
  rw [throughout_iff, parts]
  exact ⟨here, nofun⟩

namespace Grammar

variable {stop : Stop} {tokens rest : List Lexeme} {token : Token} {judgment : Judgment}

-- Tokens of the core grammar.
def CoreTokens (tokens : List Lexeme) : Prop :=
  ∀ lexeme ∈ tokens, lexeme.token ≠ .identifier "@" → lexeme.token.Shared

theorem CoreTokens.suffix (core : CoreTokens tokens) (suffix : rest <:+ tokens) : CoreTokens rest :=
  fun lexeme here => core lexeme (suffix.subset here)

theorem CoreTokens.next {s : Setting} (core : CoreTokens tokens) (moved : s.next tokens = .ok rest) :
    CoreTokens rest :=
  core.suffix (next_advances moved).suffix

theorem Derives.rest_core {s : Setting} (derives : Derives s judgment) (core : CoreTokens judgment.tokens) :
    CoreTokens judgment.rest :=
  core.suffix (derives.crosses advances_crossing).suffix

theorem CoreTokens.head (core : CoreTokens tokens) (head : head? tokens = some token)
    (other : token ≠ .identifier "@") : token.Shared := by
  obtain ⟨lexeme, here, rfl⟩ := Option.map_eq_some_iff.mp head
  exact core lexeme (List.mem_of_mem_head? here) other

theorem throughout_combine {operator : Infix} (isLeft : (Part.path left).Throughout Part.IsCore)
    (isRight : (Part.path right).Throughout Part.IsCore) :
    (Part.path (operator.combine left right)).Throughout Part.IsCore := by
  cases operator with
  | descendants | child | whereSome | whereNone => exact throughout_pair trivial rfl isLeft isRight
  | union =>
    by_cases isUnion : ∃ alternatives, left = .union alternatives
    · obtain ⟨alternatives, rfl⟩ := isUnion
      refine throughout_iff.mpr ⟨trivial, fun part isPart => ?_⟩
      change part ∈ (alternatives ++ [right]).map Part.path at isPart
      rw [List.map_append] at isPart
      rcases List.mem_append.mp isPart with here | here
      · exact (throughout_iff.mp isLeft).2 part here
      · exact List.mem_singleton.mp here ▸ isRight
    · have apart : ∀ alternatives, left ≠ .union alternatives := fun all same => isUnion ⟨all, same⟩
      rw [combine_union apart]
      exact throughout_pair trivial rfl isLeft isRight

-- What the core grammar reads for a judgment. It has no conditions and no sort keys.
def Judgment.IsCore : Judgment → Prop
  | atom _ _ p _ | path _ _ _ p _ | expression _ _ p _ | content _ _ p _ | body _ _ p _ =>
    (Part.path p).Throughout Part.IsCore
  | tail _ _ left _ p _ => (Part.path left).Throughout Part.IsCore → (Part.path p).Throughout Part.IsCore
  | operand _ _ o _ | arithmetic _ _ o _ => ∀ p, o = .path p → (Part.path p).Throughout Part.IsCore
  | condition _ _ _ _ | group _ _ _ _ | more _ _ _ _ _ | conditions _ _ _ _ | keys _ _ _ _ => True

theorem fieldList_core {s : Setting} {name : String} (read : fieldList s name tokens = .ok (p, rest)) :
    (Part.path p).Throughout Part.IsCore := by
  obtain ⟨_, _, same⟩ := bind_ok read
  cases same
  exact throughout_single trivial rfl

theorem indexOrSlice_core {s : Setting} (read : indexOrSlice s tokens = .ok (p, rest)) :
    (Part.path p).Throughout Part.IsCore := by
  cases indexOrSlice_exact.mp read with
  | index | slice => exact throughout_single trivial rfl

theorem operatorPath_places {text : String} {position : Position}
    (read : operatorPath ⟨.core, stop⟩ text position = .ok p) : p = .this ∨ p = .parent := by
  unfold operatorPath at read
  split at read
  · cases read
    exact .inl rfl
  split at read
  · cases read
    exact .inr rfl
  · cases read

theorem Derives.isCore (derives : Derives ⟨.core, stop⟩ judgment) (core : CoreTokens judgment.tokens) :
    judgment.IsCore := by
  induction derives with
  | word levels tokens p rest read =>
    cases atom_exact.mp read with
    | this rest named extended => cases extended
    | fields name behind p rest named plain moved list => exact fieldList_core list
    | wildcard | root => exact throughout_single trivial rfl
    | operator text p rest head moved read =>
      rcases operatorPath_places read with rfl | rfl <;> exact throughout_single trivial rfl
    | brackets behind p rest head moved body => cases body
    | parens behind p closing rest head moved inner => cases inner
  | brackets levels tokens behind p rest head moved body ih => exact ih (core.next moved)
  | parens levels tokens behind p closing rest head moved inner closed ih => exact ih (core.next moved)
  | ends => exact id
  | segment levels least left tokens behind segment later p rest head tight moved body more ihBody ihMore =>
    have inside := core.next moved
    exact fun isLeft => ihMore (body.rest_core inside) (throughout_pair trivial rfl isLeft (ihBody inside))
  | binary levels least left tokens operator behind right later p rest sign tight moved operand more ihOperand
      ihMore =>
    have second := core.next moved
    exact fun isLeft => ihMore (operand.rest_core second) (throughout_combine isLeft (ihOperand second))
  | path levels least tokens left behind p rest first more ihFirst ihMore =>
    exact ihMore (first.rest_core core) (ihFirst core)
  | number | real => exact nofun
  | operand levels tokens p rest path ih =>
    rintro _ ⟨⟩
    exact ih core
  | alone levels tokens o rest operand sign ih => exact ih core
  | arithmetic levels tokens left behind operator later right rest operand sign => cases sign
  | expression levels tokens p rest inner ih => exact ih core p rfl
  | present | compare | bare | enclosed | noMore | further | conditions | lastKey | key | commaKey => trivial
  | fullSlice => exact throughout_single trivial rfl
  | place levels tokens p rest read => exact indexOrSlice_core read
  | fields levels tokens name behind p rest named moved list => exact fieldList_core list
  | filter levels tokens behind all rest head => cases core.head head nofun
  | sort levels tokens keys rest read =>
    rcases keys_start read with head | head
    all_goals cases core.head head nofun
  | body levels tokens p closing rest content closed ih => exact ih core

end Grammar

-- Whatever text is read, what comes of it is well formed at every depth: no list is empty, no slice stands still, a
-- union has a second alternative and starts with none, only patterns are looked for, operands of arithmetic are
-- numbers, texts and paths that are not just a name, splitting has a separator, and the core grammar has no filters,
-- no sorting, no arithmetic and no named operators.
theorem Path.ofText_formed {profile : Profile} {text : String} {p : Path}
    (accepted : Path.ofText profile text = .ok p) :
    ∀ part, (Part.path p).Within part → part.Formed profile := by
  intro part within
  refine ⟨((Path.ofText_shaped accepted).within within).sound, ?_⟩
  rintro rfl
  rw [Path.ofText_within] at accepted
  have derives := (Path.ofTextWithin_exact.mp accepted).2
  exact derives.isCore shared_scanFrom part within

-- A slice in a condition in an operand.
theorem Path.ofText_formed_nested :
    let backwards := Path.slice none none (some (-1))
    let condition := Condition.compare (.child (.fields ["b"]) backwards) .equal (.integer 1)
    let filtered := Path.child (.fields ["a"]) (.filter [condition])
    let p := Path.arithmetic .multiply (.path filtered) (.literal (.string "c"))
    Path.ofText .extended "a[?b[::-1] = 1] * c" = .ok p ∧ (Part.path p).Within (.path backwards) ∧
      (Part.path backwards).Formed .extended := by
  intro backwards condition filtered p
  have accepted : Path.ofText .extended "a[?b[::-1] = 1] * c" = .ok p := by
    unfold p filtered condition backwards
    rfl
  have inCondition : (Part.condition condition).Within (.path backwards) :=
    .inside _ (.path (.child (.fields ["b"]) backwards)) _ (by simp [condition, Part.parts])
      (.inside _ _ _ (by simp [Part.parts]) (.self _))
  have inOperand : (Part.operand (.path filtered)).Within (.path backwards) :=
    .inside _ (.path filtered) _ (by simp [Part.parts])
      (.inside _ (.path (.filter [condition])) _ (by simp [filtered, Part.parts])
        (.inside _ _ _ (by simp [Part.parts]) inCondition))
  have within : (Part.path p).Within (.path backwards) := .inside _ _ _ (by simp [p, Part.parts]) inOperand
  exact ⟨accepted, within, Path.ofText_formed accepted _ within⟩

end TreePath
