import TreePath.Proofs.Path.Derivation
namespace TreePath

-- The parts that path expressions are made of.
inductive Part where
  | path (p : Path)
  | condition (c : Condition)
  | key (k : SortKey)
  | operand (o : Operand)

def Literal.isPattern : Literal → Bool
  | pattern _ => true
  | _ => false

-- Splitting needs a separator.
def NamedOperator.Valid : NamedOperator → Prop
  | split separator _ _ => separator ≠ ""
  | _ => True

-- What reading makes, and an evaluation may rely on: no list is empty, no slice stands still, the first
-- alternative of a union is no union, only patterns are looked for, and operands of arithmetic are numbers,
-- texts and paths that are not just a name.
inductive Shaped : Part → Prop where
  | root : Shaped (.path .root)
  | this : Shaped (.path .this)
  | parent : Shaped (.path .parent)
  | wildcard : Shaped (.path .wildcard)
  | fields (first : String) (others : List String) : Shaped (.path (.fields (first :: others)))
  | index (i : Int64) : Shaped (.path (.index i))
  | slice (start stop step : Option Int64) (moves : step ≠ some 0) : Shaped (.path (.slice start stop step))
  | child (left right : Path) (isLeft : Shaped (.path left)) (isRight : Shaped (.path right)) :
      Shaped (.path (.child left right))
  | descendants (left right : Path) (isLeft : Shaped (.path left)) (isRight : Shaped (.path right)) :
      Shaped (.path (.descendants left right))
  | whereSome (left right : Path) (isLeft : Shaped (.path left)) (isRight : Shaped (.path right)) :
      Shaped (.path (.whereSome left right))
  | whereNone (left right : Path) (isLeft : Shaped (.path left)) (isRight : Shaped (.path right)) :
      Shaped (.path (.whereNone left right))
  | union (first second : Path) (others : List Path) (apart : ∀ alternatives, first ≠ .union alternatives)
      (all : ∀ p ∈ first :: second :: others, Shaped (.path p)) :
      Shaped (.path (.union (first :: second :: others)))
  | filter (first : Condition) (others : List Condition) (all : ∀ c ∈ first :: others, Shaped (.condition c)) :
      Shaped (.path (.filter (first :: others)))
  | sort (first : SortKey) (others : List SortKey) (all : ∀ k ∈ first :: others, Shaped (.key k)) :
      Shaped (.path (.sort (first :: others)))
  | arithmetic (operator : ArithmeticOperator) (left right : Operand) (isLeft : Shaped (.operand left))
      (isRight : Shaped (.operand right)) : Shaped (.path (.arithmetic operator left right))
  | named (operator : NamedOperator) (valid : operator.Valid) : Shaped (.path (.named operator))
  | present (target : Path) (isTarget : Shaped (.path target)) : Shaped (.condition (.present target))
  | compare (target : Path) (operator : CompareOperator) (l : Literal) (isTarget : Shaped (.path target))
      (suits : l.isPattern = decide (operator = .matching)) : Shaped (.condition (.compare target operator l))
  | key (direction : Direction) (p : Path) (isPath : Shaped (.path p)) : Shaped (.key (.mk direction p))
  | integer (n : Int64) : Shaped (.operand (.literal (.integer n)))
  | real (x : Float) : Shaped (.operand (.literal (.float x)))
  | string (s : String) : Shaped (.operand (.literal (.string s)))
  | operand (p : Path) (several : ∀ name, p ≠ .field name) (isPath : Shaped (.path p)) :
      Shaped (.operand (.path p))

theorem literalized_path {p : Path} (several : ∀ name, p ≠ .field name) : Operand.literalized (.path p) = .path p := by
  unfold Operand.literalized
  split
  · rename_i name same
    cases same
    exact absurd rfl (several name)
  · rfl

namespace Grammar

-- An operand as it is read: a number, or a path, which may still be just a name.
inductive Operand.Read : Operand → Prop where
  | integer (n : Int64) : Read (.literal (.integer n))
  | real (x : Float) : Read (.literal (.float x))
  | path (p : Path) (shaped : Shaped (.path p)) : Read (.path p)

variable {s : Setting} {p left right : Path} {o : Operand} {tokens rest : List Lexeme} {position : Position}

theorem Operand.Read.literalized (read : Operand.Read o) : Shaped (.operand o.literalized) := by
  cases read with
  | integer n => exact .integer n
  | real x => exact .real x
  | path p shaped =>
    by_cases single : ∃ name, p = .field name
    · obtain ⟨name, rfl⟩ := single
      exact .string name
    · have several : ∀ name, p ≠ .field name := fun name same => single ⟨name, same⟩
      rw [literalized_path several]
      exact .operand p several shaped

theorem fieldList_shaped {name : String} (read : fieldList s name tokens = .ok (p, rest)) : Shaped (.path p) := by
  obtain ⟨_, _, same⟩ := bind_ok read
  cases same
  exact .fields _ _

theorem indexOrSlice_shaped (read : indexOrSlice s tokens = .ok (p, rest)) : Shaped (.path p) := by
  cases indexOrSlice_exact.mp read with
  | index i => exact .index i
  | slice start stop step _ _ _ _ _ _ _ _ _ moves => exact .slice start stop step moves

theorem readSub_valid {arguments : List Char} {operator : NamedOperator}
    (read : NamedOperator.readSub arguments = .ok operator) : operator.Valid := by
  unfold NamedOperator.readSub at read
  split at read
  · split at read
    · cases read
    split at read
    · cases read
    · cases read
      trivial
  · cases read

theorem readSplit_valid {arguments : List Char} {operator : NamedOperator}
    (read : NamedOperator.readSplit arguments = .ok operator) : operator.Valid := by
  unfold NamedOperator.readSplit at read
  split at read
  · cases read
  split at read
  · cases read
  split at read
  · cases read
  rename_i separator selector _ nonempty
  split at read
  · cases read
  · obtain ⟨selector, _, same⟩ := bind_ok read
    cases same
    intro empty
    exact nonempty (by simpa using congrArg String.toList empty)

theorem read?_valid {text : String} {operator : NamedOperator}
    (read : NamedOperator.read? text = some (.ok operator)) : operator.Valid := by
  unfold NamedOperator.read? at read
  iterate 4
    split at read
    · cases read
      trivial
  obtain ⟨front, _, read⟩ := Option.bind_eq_some_iff.mp read
  obtain ⟨⟨name, arguments⟩, _, read⟩ := Option.bind_eq_some_iff.mp read
  dsimp only at read
  split at read
  · exact readSub_valid (Option.some.inj read)
  split at read
  · exact readSplit_valid (Option.some.inj read)
  split at read
  all_goals cases read

theorem operatorPath_shaped {text : String} (read : operatorPath s text position = .ok p) : Shaped (.path p) := by
  unfold operatorPath at read
  split at read
  · cases read
    exact .this
  split at read
  · cases read
    exact .parent
  split at read
  · cases read
  split at read
  · rename_i operator found
    cases read
    exact .named operator (read?_valid found)
  all_goals cases read

theorem literal_suits {operator : CompareOperator} {l : Literal} (read : literal s operator tokens = .ok (l, rest)) :
    l.isPattern = decide (operator = .matching) := by
  obtain ⟨plain, found, _, meant⟩ := literal_exact.mp read
  obtain ⟨token, _, meaning⟩ := Option.bind_eq_some_iff.mp found
  have noPattern : plain.isPattern = false := by
    cases token <;> cases meaning <;> rfl
  cases operator with
  | matching =>
    cases plain with
    | string source =>
      unfold literalFor at meant
      dsimp only at meant
      split at meant
      · cases meant
        rfl
      · cases meant
    | _ => cases meant
  | _ =>
    cases meant
    exact noPattern

theorem combine_shaped {operator : Infix} (isLeft : Shaped (.path left)) (isRight : Shaped (.path right)) :
    Shaped (.path (operator.combine left right)) := by
  cases operator with
  | descendants => exact .descendants left right isLeft isRight
  | child => exact .child left right isLeft isRight
  | whereSome => exact .whereSome left right isLeft isRight
  | whereNone => exact .whereNone left right isLeft isRight
  | union =>
    by_cases isUnion : ∃ alternatives, left = .union alternatives
    · obtain ⟨alternatives, rfl⟩ := isUnion
      cases isLeft with
      | union first second others apart all =>
        refine .union first second (others ++ [right]) apart fun p here => ?_
        rw [← List.cons_append, ← List.cons_append] at here
        rcases List.mem_append.mp here with here | here
        · exact all p here
        · exact List.mem_singleton.mp here ▸ isRight
    · have apart : ∀ alternatives, left ≠ .union alternatives := fun all same => isUnion ⟨all, same⟩
      rw [combine_union apart]
      refine .union left right [] apart fun p here => ?_
      simp only [List.mem_cons, List.not_mem_nil, or_false] at here
      rcases here with rfl | rfl
      · exact isLeft
      · exact isRight

-- What reading gives for a judgment has the shape that it is to have.
def Judgment.Shaped : Judgment → Prop
  | atom _ _ p _ | path _ _ _ p _ | expression _ _ p _ | content _ _ p _ | body _ _ p _ => TreePath.Shaped (.path p)
  | tail _ _ left _ p _ => TreePath.Shaped (.path left) → TreePath.Shaped (.path p)
  | operand _ _ o _ | arithmetic _ _ o _ => Operand.Read o
  | condition _ _ c _ => TreePath.Shaped (.condition c)
  | group _ _ all _ | conditions _ _ all _ => all ≠ [] ∧ ∀ c ∈ all, TreePath.Shaped (.condition c)
  | more _ before _ all _ => (before ≠ [] ∧ ∀ c ∈ before, TreePath.Shaped (.condition c)) →
    all ≠ [] ∧ ∀ c ∈ all, TreePath.Shaped (.condition c)
  | keys _ _ all _ => all ≠ [] ∧ ∀ k ∈ all, TreePath.Shaped (.key k)

theorem Derives.shaped {judgment : Judgment} (derives : Derives s judgment) : judgment.Shaped := by
  induction derives with
  | word levels tokens p rest read =>
    cases atom_exact.mp read with
    | this => exact .this
    | fields name behind p rest named plain moved list => exact fieldList_shaped list
    | wildcard => exact .wildcard
    | root => exact .root
    | operator text p rest head moved read => exact operatorPath_shaped read
    | brackets behind p rest head moved body => cases body
    | parens behind p closing rest head moved inner => cases inner
  | brackets levels tokens behind p rest head moved body ih => exact ih
  | parens levels tokens behind p closing rest head moved inner closed ih => exact ih
  | ends levels least p tokens bracket looser => exact id
  | segment levels least left tokens behind segment later p rest head tight moved body more ihBody ihMore =>
    exact fun isLeft => ihMore (.child _ _ isLeft ihBody)
  | binary levels least left tokens operator behind right later p rest sign tight moved operand more ihOperand
      ihMore => exact fun isLeft => ihMore (combine_shaped isLeft ihOperand)
  | path levels least tokens left behind p rest first more ihFirst ihMore => exact ihMore ihFirst
  | number levels tokens n rest extended head moved => exact .integer n
  | real levels tokens x rest head moved => exact .real x
  | operand levels tokens p rest path ih => exact .path p ih
  | alone levels tokens o rest operand sign ih => exact ih
  | arithmetic levels tokens left behind operator later right rest operand sign moved inner ihOperand ihInner =>
    exact .path _ (.arithmetic operator _ _ ihOperand.literalized ihInner.literalized)
  | expression levels tokens p rest inner ih =>
    cases ih with
    | path _ shaped => exact shaped
  | present levels tokens p rest target sign ih => exact .present p ih
  | compare levels tokens p behind operator later l rest target sign moved compared ih =>
    exact .compare p operator l ih (literal_suits compared)
  | bare levels tokens c rest apart single ih =>
    exact ⟨List.cons_ne_nil _ _, fun c here => List.mem_singleton.mp here ▸ ih⟩
  | enclosed levels tokens behind all closing rest head moved inner closed ih => exact ih
  | noMore levels all tokens apart => exact id
  | further levels before tokens behind group later all rest head moved next more ihNext ihMore =>
    intro shaped
    refine ihMore ⟨fun none => shaped.1 (List.append_eq_nil_iff.mp none).1, fun c here => ?_⟩
    rcases List.mem_append.mp here with here | here
    · exact shaped.2 c here
    · exact ihNext.2 c here
  | conditions levels tokens group behind all rest first more ihFirst ihMore => exact ihMore ihFirst
  | lastKey levels tokens direction behind p rest mark moved path noComma noMark ih =>
    exact ⟨List.cons_ne_nil _ _, fun k here => List.mem_singleton.mp here ▸ .key direction p ih⟩
  | key levels tokens direction behind p later keys rest mark moved path noComma isMark more ihPath ihMore
  | commaKey levels tokens direction behind p comma later keys rest mark moved path isComma again more ihPath
      ihMore =>
    refine ⟨List.cons_ne_nil _ _, fun k here => ?_⟩
    rcases List.mem_cons.mp here with rfl | here
    · exact .key direction p ihPath
    · exact ihMore.2 k here
  | fullSlice levels tokens rest head moved => exact .slice none none none nofun
  | place levels tokens p rest read => exact indexOrSlice_shaped read
  | fields levels tokens name behind p rest named moved list => exact fieldList_shaped list
  | filter levels tokens behind all rest head moved read ih =>
    obtain ⟨first, others, rfl⟩ := List.exists_cons_of_ne_nil ih.1
    exact .filter first others ih.2
  | sort levels tokens keys rest read ih =>
    obtain ⟨first, others, rfl⟩ := List.exists_cons_of_ne_nil ih.1
    exact .sort first others ih.2
  | body levels tokens p closing rest content closed ih => exact ih

end Grammar

-- Every accepted text is read as an expression of this shape.
theorem Path.ofText_shaped {profile : Profile} {text : String} {p : Path}
    (accepted : Path.ofText profile text = .ok p) : Shaped (.path p) := by
  rw [Path.ofText_within] at accepted
  exact (Path.ofTextWithin_exact.mp accepted).2.shaped

end TreePath
