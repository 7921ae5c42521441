import TreePath.Proofs.Json.Exchange
import TreePath.Proofs.Json.Grammar
import TreePath.Proofs.Value.WellFormed
import TreePath.Value.Printer
namespace TreePath

namespace Value

mutual
-- Whether no double stands anywhere in the tree.
def FloatFree : Value → Prop
  | float _ => False
  | array items => ItemsFloatFree items
  | object members => MembersFloatFree members
  | _ => True

def ItemsFloatFree : List Value → Prop
  | [] => True
  | item :: rest => FloatFree item ∧ ItemsFloatFree rest

def MembersFloatFree : List (String × Value) → Prop
  | [] => True
  | (_, value) :: rest => FloatFree value ∧ MembersFloatFree rest
end

variable {items : List Value} {members : List (String × Value)}

theorem itemsFloatFree_iff : ItemsFloatFree items ↔ ∀ item ∈ items, item.FloatFree :=
  forall_mem_of_parts trivial fun _ _ => .rfl

theorem membersFloatFree_iff : MembersFloatFree members ↔ ∀ member ∈ members, member.2.FloatFree :=
  forall_mem_of_parts trivial fun _ _ => .rfl

mutual
theorem floatsFinite_of_free : ∀ {v : Value}, v.FloatFree → v.FloatsFinite
  | .null, _ | .boolean _, _ | .integer _, _ | .string _, _ => trivial
  | .float _, free => False.elim free
  | .array _, free => itemsFinite_of_free free
  | .object _, free => membersFinite_of_free free

theorem itemsFinite_of_free : ∀ {items : List Value}, ItemsFloatFree items → ItemsFinite items
  | [], _ => trivial
  | _ :: _, free => ⟨floatsFinite_of_free free.1, itemsFinite_of_free free.2⟩

theorem membersFinite_of_free : ∀ {members : List (String × Value)}, MembersFloatFree members → MembersFinite members
  | [], _ => trivial
  | _ :: _, free => ⟨floatsFinite_of_free free.1, membersFinite_of_free free.2⟩
end

-- Induction over a tree, with what holds of the parts of a container as a fact about each of them.
@[elab_as_elim]
theorem byParts {holds : Value → Prop} (v : Value) (null : holds .null) (boolean : ∀ b, holds (.boolean b))
    (float : ∀ x, holds (.float x)) (integer : ∀ n, holds (.integer n)) (string : ∀ s, holds (.string s))
    (array : ∀ items, (∀ item ∈ items, holds item) → holds (.array items))
    (object : ∀ members, (∀ member ∈ members, holds member.2) → holds (.object members)) : holds v := by
  cases v with
  | null => exact null
  | boolean b => exact boolean b
  | float x => exact float x
  | integer n => exact integer n
  | string s => exact string s
  | array items =>
    exact array items fun item here => byParts item null boolean float integer string array object
  | object members =>
    exact object members fun member here => byParts member.2 null boolean float integer string array object
termination_by sizeOf v
decreasing_by
  · have smaller := List.sizeOf_lt_of_mem here
    simp only [Value.array.sizeOf_spec]
    omega
  · have smaller := List.sizeOf_lt_of_mem here
    obtain ⟨name, value⟩ := member
    simp only [Value.object.sizeOf_spec, Prod.mk.sizeOf_spec] at smaller ⊢
    omega

end Value

namespace Json

variable {α β : Type} {writes : α → List Char → Prop} {of : β → α} {spell : β → List Char}
  {gap behind : List Char} {c : Char} {v : Value} {items : List Value} {members : List (String × Value)}

theorem itemsOfValues_eq : Document.itemsOfValues items = items.map Document.ofValue := by
  induction items with
  | nil => rfl
  | cons first rest ih => rw [Document.itemsOfValues, ih, List.map_cons]

theorem membersOfValues_eq :
    Document.membersOfValues members = members.map fun member => (member.1, Document.ofValue member.2) := by
  induction members with
  | nil => rfl
  | cons first rest ih => rw [Document.membersOfValues, ih, List.map_cons]

theorem toValue_ofValue (free : v.FloatFree) : (Document.ofValue v).toValue = v :=
  (toValue_ofValue_iff v).mpr (Value.floatsFinite_of_free free)

theorem depth_ofValue (free : v.FloatFree) : (Document.ofValue v).depth = v.depth :=
  congrArg Value.depth (toValue_ofValue free)

theorem hexDigit?_hexDigit (n : Nat) : CodeRanges.hexDigit? (Value.hexDigit n) = some (n % 16) := by
  have all : ∀ k < 16, CodeRanges.hexDigit? k.digitChar = some k := by decide
  exact all (n % 16) (Nat.mod_lt n (by decide))

theorem spelled_escapeChar (c : Char) : Spelled c (Value.escapeChar c) := by
  unfold Value.escapeChar
  split
  · rename_i same
    subst same
    exact .escape '"' '"' (by decide)
  split
  · rename_i same
    subst same
    exact .escape '\\' '\\' (by decide)
  split
  · rename_i same
    subst same
    exact .escape 'n' '\n' (by decide)
  split
  · rename_i same
    subst same
    exact .escape 'r' '\r' (by decide)
  split
  · rename_i same
    subst same
    exact .escape 't' '\t' (by decide)
  split
  · rename_i control
    have small : c.toNat < 160 := by
      simp only [CharClass.isControl, Bool.or_eq_true, Bool.and_eq_true, decide_eq_true_eq] at control
      omega
    have unit := CodeUnit.digits _ _ _ _ _ _ _ _ (hexDigit?_hexDigit (c.toNat / 4096))
      (hexDigit?_hexDigit (c.toNat / 256)) (hexDigit?_hexDigit (c.toNat / 16)) (hexDigit?_hexDigit c.toNat)
    have code : ((c.toNat / 4096 % 16 * 16 + c.toNat / 256 % 16) * 16 + c.toNat / 16 % 16) * 16 + c.toNat % 16 =
        c.toNat := by omega
    rw [code] at unit
    have spelled := Spelled.unit c.toNat _ unit (by omega)
    rwa [Char.ofNat_toNat] at spelled
  · rename_i noQuote noEscape _ _ _ visible
    refine .plain c ?_ noQuote noEscape
    simp only [CharClass.isControl, Bool.or_eq_true, Bool.and_eq_true, decide_eq_true_eq, not_or] at visible
    omega

theorem quoted_escaped (said : List Char) : Quoted said (said.flatMap Value.escapeChar) := by
  induction said with
  | nil => exact .nil
  | cons c said ih =>
    rw [List.flatMap_cons]
    exact .cons c said _ _ (spelled_escapeChar c) ih

theorem toList_quote (s : String) : (Value.quote s).toList = '"' :: (s.toList.flatMap Value.escapeChar ++ ['"']) := by
  rw [Value.quote, String.toList_ofList]

-- A list as both layouts write it: the same space in front of every item, and some behind the last.
theorem listed_laid (spaced : Blank gap) (spacedBehind : Blank behind) {first : β} {rest : List β}
    (written : ∀ item ∈ first :: rest, writes (of item) (spell item)) :
    Listed writes ((first :: rest).map of)
      (gap ++ (spell first ++ (rest.flatMap (fun item => ',' :: (gap ++ spell item)) ++ behind))) := by
  induction rest generalizing first with
  | nil => exact .last _ _ _ _ spaced (written first List.mem_cons_self) spacedBehind
  | cons second rest ih =>
    have later := ih fun item here => written item (List.mem_cons_of_mem _ here)
    have listed := Listed.more _ _ gap _ [] _ spaced (written first List.mem_cons_self) blank_nil later
    simpa using listed

-- A member with its value as it is spelled, and the space behind the colon.
def memberText (space : List Char) (spell : Value → List Char) (member : String × Value) : List Char :=
  (Value.quote member.1).toList ++ ':' :: (space ++ spell member.2)

-- What a printer writes at each level: the text of what has no parts, and containers as lists with a gap in
-- front of each part that is that of the level within.
structure Layout (print : Nat → Value → List Char) (space : List Char) (gap : Nat → List Char) : Prop where
  spacedNames : Blank space
  spaced : ∀ level, Blank (gap level)
  scalar : ∀ level v, (∀ first rest, v ≠ .array (first :: rest)) → (∀ first rest, v ≠ .object (first :: rest)) →
    print level v = v.scalarText.toList
  array : ∀ level first rest, print level (.array (first :: rest)) =
    '[' :: (gap (level + 1) ++ (print (level + 1) first ++
      (rest.flatMap (fun item => ',' :: (gap (level + 1) ++ print (level + 1) item)) ++ gap level)) ++ [']'])
  object : ∀ level first rest, print level (.object (first :: rest)) =
    '\x7b' :: (gap (level + 1) ++ (memberText space (print (level + 1)) first ++
      (rest.flatMap (fun member => ',' :: (gap (level + 1) ++ memberText space (print (level + 1)) member)) ++
        gap level)) ++ ['\x7d'])

-- Each layout writes JSON texts of the same document.
theorem Layout.written {print : Nat → Value → List Char} {space : List Char} {gap : Nat → List Char}
    (layout : Layout print space gap) (free : v.FloatFree) (unique : v.UniqueNames) (level : Nat) :
    Written (.ofValue v) (print level v) := by
  induction v using Value.byParts generalizing level with
  | null =>
    rw [layout.scalar level _ (by simp) (by simp)]
    exact .null
  | boolean b =>
    rw [layout.scalar level _ (by simp) (by simp)]
    cases b with
    | false => exact .boolean false
    | true => exact .boolean true
  | float x => exact absurd free (by simp [Value.FloatFree])
  | integer n =>
    rw [layout.scalar level _ (by simp) (by simp)]
    exact .integer n
  | string s =>
    rw [layout.scalar level _ (by simp) (by simp), Value.scalarText, toList_quote]
    exact .string s _ (quoted_escaped _)
  | array items ih =>
    rw [Value.FloatFree, Value.itemsFloatFree_iff] at free
    rw [Value.UniqueNames, Value.itemsUnique_iff] at unique
    cases items with
    | nil =>
      rw [layout.scalar level _ (by simp) (by simp)]
      exact .noItems [] blank_nil
    | cons first rest =>
      rw [layout.array, Document.ofValue, itemsOfValues_eq]
      exact .array _ _ (listed_laid (layout.spaced _) (layout.spaced _) fun item here =>
        ih item here (free item here) (unique item here) (level + 1))
  | object members ih =>
    rw [Value.FloatFree, Value.membersFloatFree_iff] at free
    rw [Value.UniqueNames, Value.membersUnique_iff] at unique
    cases members with
    | nil =>
      rw [layout.scalar level _ (by simp) (by simp)]
      exact .noMembers [] blank_nil
    | cons first rest =>
      rw [layout.object, Document.ofValue, membersOfValues_eq]
      refine .object _ _ ?_ (listed_laid (layout.spaced _) (layout.spaced _) fun member here => ?_)
      · rw [List.map_map]
        exact unique.1
      · have named := Member.named member.1 (.ofValue member.2) _ [] space _ (quoted_escaped member.1.toList)
          blank_nil layout.spacedNames (ih member here (free member here) (unique.2 member here) (level + 1))
        simpa [memberText, toList_quote] using named

theorem toList_jsonItems :
    (Value.jsonItems items).toList = items.flatMap fun item => ',' :: item.json.toList := by
  induction items with
  | nil => rfl
  | cons first rest ih => simp [Value.jsonItems, String.toList_append, ih]

theorem toList_jsonMembers : (Value.jsonMembers members).toList =
    members.flatMap fun member => ',' :: memberText [] (fun v => v.json.toList) member := by
  induction members with
  | nil => rfl
  | cons first rest ih => simp [Value.jsonMembers, String.toList_append, ih, memberText]

theorem json_layout : Layout (fun _ v => v.json.toList) [] (fun _ => []) where
  spacedNames := blank_nil
  spaced _ := blank_nil
  scalar level v noItems noMembers := by
    cases v with
    | null | boolean | float | integer | string => rfl
    | array items =>
      cases items with
      | nil => rfl
      | cons first rest => exact absurd rfl (noItems first rest)
    | object members =>
      cases members with
      | nil => rfl
      | cons first rest => exact absurd rfl (noMembers first rest)
  array level first rest := by simp [Value.json, String.toList_append, toList_jsonItems]
  object level first rest := by simp [Value.json, String.toList_append, toList_jsonMembers, memberText]

theorem toList_indentedItems (level : Nat) : (Value.indentedItems level items).toList =
    items.flatMap fun item => ',' :: ((Value.newLine (level + 1)).toList ++ (item.indented (level + 1)).toList) := by
  induction items with
  | nil => rfl
  | cons first rest ih => simp [Value.indentedItems, String.toList_append, ih]

theorem toList_indentedMembers (level : Nat) : (Value.indentedMembers level members).toList =
    members.flatMap fun member => ',' :: ((Value.newLine (level + 1)).toList ++
      memberText [' '] (fun v => (v.indented (level + 1)).toList) member) := by
  induction members with
  | nil => rfl
  | cons first rest ih => simp [Value.indentedMembers, String.toList_append, ih, memberText]

theorem blank_newLine (level : Nat) : Blank (Value.newLine level).toList := by
  rw [Value.newLine, String.toList_ofList]
  intro c here
  rcases List.mem_cons.mp here with rfl | blank
  · rfl
  · rw [(List.mem_replicate.mp blank).2]
    rfl

theorem indented_layout :
    Layout (fun level v => (v.indented level).toList) [' '] (fun level => (Value.newLine level).toList) where
  spacedNames := by simp [Blank, isSpace]
  spaced := blank_newLine
  scalar level v noItems noMembers := by
    cases v with
    | null | boolean | float | integer | string => rw [Value.indented] <;> simp
    | array items =>
      cases items with
      | nil =>
        rw [Value.indented]
        rfl
      | cons first rest => exact absurd rfl (noItems first rest)
    | object members =>
      cases members with
      | nil =>
        rw [Value.indented]
        rfl
      | cons first rest => exact absurd rfl (noMembers first rest)
  array level first rest := by simp [Value.indented, String.toList_append, toList_indentedItems]
  object level first rest := by simp [Value.indented, String.toList_append, toList_indentedMembers, memberText]

theorem Conforms.printed {read : String → Option Document} (conforms : Conforms read) {text : String}
    (written : Written (.ofValue v) text.toList) (free : v.FloatFree) (shallow : v.depth < 128) :
    (read text).map Document.toValue = some v := by
  rw [← depth_ofValue free] at shallow
  have document := conforms (.ofValue v) [] text.toList [] blank_nil written blank_nil shallow
  rw [List.nil_append, List.append_nil, String.ofList_toList] at document
  rw [document, Option.map_some, toValue_ofValue free]

-- A tree without doubles is read back from either of its texts, by any reader that conforms.
theorem printed_exact {read : String → Option Document} (conforms : Conforms read) (v : Value)
    (free : v.FloatFree) (unique : v.UniqueNames) (shallow : v.depth < 128) :
    (read v.json).map Document.toValue = some v ∧ (read v.pretty).map Document.toValue = some v :=
  ⟨conforms.printed (json_layout.written free unique 0) free shallow,
    conforms.printed (indented_layout.written free unique 0) free shallow⟩

theorem printed_exact_nested :
    let v : Value := .object [("a\"\n\x7f", .array [.integer (-3), .null, .string "\\ü\x01"]), ("b", .object [])]
    (Document.read? v.json).map Document.toValue = some v ∧ (Document.read? v.pretty).map Document.toValue = some v :=
  printed_exact read?_conforms _ (by simp [Value.FloatFree, Value.MembersFloatFree, Value.ItemsFloatFree])
    (by simp [Value.UniqueNames, Value.MembersUnique, Value.ItemsUnique])
    (by simp [Value.depth, Value.membersDepth, Value.itemsDepth])

end Json

-- What the reader at hand makes of either text.
theorem Value.ofJson?_printed (v : Value) (free : v.FloatFree) (unique : v.UniqueNames) (shallow : v.depth < 128) :
    Value.ofJson? v.json = some v ∧ Value.ofJson? v.pretty = some v :=
  ⟨Json.read?_conforms.printed (Json.json_layout.written free unique 0) free shallow,
    Json.read?_conforms.printed (Json.indented_layout.written free unique 0) free shallow⟩

end TreePath
