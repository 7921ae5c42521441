import TreePath.Json.Document
import TreePath.Proofs.Number.Conversion
import TreePath.Proofs.Token.Words
namespace TreePath

mutual
-- Whether no double anywhere in the tree is infinite or no number.
def Value.FloatsFinite : Value → Prop
  | .float x => x.isFinite = true
  | .array items => Value.ItemsFinite items
  | .object members => Value.MembersFinite members
  | _ => True

def Value.ItemsFinite : List Value → Prop
  | [] => True
  | item :: rest => Value.FloatsFinite item ∧ Value.ItemsFinite rest

def Value.MembersFinite : List (String × Value) → Prop
  | [] => True
  | (_, value) :: rest => Value.FloatsFinite value ∧ Value.MembersFinite rest
end

namespace Json

-- Whether no number anywhere in the document is an integer above those of 64 bits with a sign.
def Number.Signed : Number → Prop
  | unsigned n => (n.toNat : Int) ≤ Integer.highest
  | negative _ _ | real _ _ => True

mutual
def Document.Signed : Document → Prop
  | .number n => n.Signed
  | .array items => Document.ItemsSigned items
  | .object members => Document.MembersSigned members
  | _ => True

def Document.ItemsSigned : List Document → Prop
  | [] => True
  | item :: rest => Document.Signed item ∧ Document.ItemsSigned rest

def Document.MembersSigned : List (String × Document) → Prop
  | [] => True
  | (_, value) :: rest => Document.Signed value ∧ Document.MembersSigned rest
end

theorem toValue_ofInteger (n : Int64) : (Number.ofInteger n).toValue = .integer n := by
  have high := Int64.toInt_lt n
  unfold Number.ofInteger
  split
  · rfl
  · rename_i natural
    have fits : n.toInt.toNat < UInt64.size := by
      change n.toInt.toNat < 18446744073709551616
      omega
    have whole : ((UInt64.ofNat n.toInt.toNat).toNat : Int) = n.toInt := by
      rw [UInt64.toNat_ofNat_of_lt' fits]
      omega
    rw [Number.toValue, whole, Integer.ofInt?_toInt]

-- A double becomes a double or null, so an integer that has been read as one does not come back.
theorem ofValue_float_ne (x : Float) (n : UInt64) : Document.ofValue (.float x) ≠ .number (.unsigned n) := by
  rw [Document.ofValue]
  split <;> simp

theorem ofInteger_ofInt {n : UInt64} (fits : (n.toNat : Int) ≤ Integer.highest) :
    Number.ofInteger (Int64.ofInt n.toNat) = .unsigned n := by
  have value : (Int64.ofInt n.toNat).toInt = n.toNat := by
    refine Int64.toInt_ofInt_of_le (by omega) ?_
    change (n.toNat : Int) < 9223372036854775808
    change (n.toNat : Int) ≤ 9223372036854775807 at fits
    omega
  rw [Number.ofInteger, dif_neg (by omega), value, Int.toNat_natCast, UInt64.ofNat_toNat]

-- The largest unsigned integer is far below the largest double.
theorem isFinite_ofNat {n : Nat} (inside : n < 2 ^ 64) : (Float.ofNat n).isFinite = true := by
  rcases Nat.eq_zero_or_pos n with rfl | positive
  · rfl
  · obtain ⟨m, q, some, unpacks, _⟩ := Binary.ofNat_finite positive inside
    change (Float.ofNat n).toModel.unpack.isFinite = true
    rw [unpacks]
    rfl

theorem toValue_finite (n : Number) : n.toValue.FloatsFinite := by
  cases n with
  | unsigned n =>
    rw [Number.toValue]
    split
    · trivial
    · exact isFinite_ofNat n.toNat_lt
  | negative n _ => trivial
  | real x finite => exact finite

theorem ofValue_toValue_number (n : Number) : Document.ofValue n.toValue = .number n ↔ n.Signed := by
  cases n with
  | unsigned n =>
    rw [Number.Signed, Number.toValue, Integer.ofInt?]
    by_cases fits : (n.toNat : Int) ≤ Integer.highest
    · have low : Integer.lowest ≤ (n.toNat : Int) := Int.le_trans (by decide) (Int.natCast_nonneg _)
      rw [if_pos ⟨low, fits⟩, Document.ofValue, ofInteger_ofInt fits]
      exact iff_of_true rfl fits
    · rw [if_neg (fun both => fits both.2)]
      exact iff_of_false (ofValue_float_ne _ n) fits
  | negative n below =>
    rw [Number.toValue, Document.ofValue, Number.ofInteger, dif_pos below]
    exact iff_of_true rfl trivial
  | real x finite =>
    rw [Number.toValue, Document.ofValue, dif_pos finite]
    exact iff_of_true rfl trivial

mutual
theorem toValue_ofValue_iff : ∀ v : Value, (Document.ofValue v).toValue = v ↔ v.FloatsFinite
  | .null | .boolean _ | .string _ => iff_of_true rfl trivial
  | .float x => by
    rw [Document.ofValue, Value.FloatsFinite]
    split
    · rename_i finite
      exact iff_of_true rfl finite
    · rename_i infinite
      exact iff_of_false Value.noConfusion infinite
  | .integer n => iff_of_true (toValue_ofInteger n) trivial
  | .array items => by
    rw [Document.ofValue, Document.toValue, Value.array.injEq, Value.FloatsFinite]
    exact itemsToValues_ofValues_iff items
  | .object members => by
    rw [Document.ofValue, Document.toValue, Value.object.injEq, Value.FloatsFinite]
    exact membersToValues_ofValues_iff members

theorem itemsToValues_ofValues_iff : ∀ items : List Value,
    Document.itemsToValues (Document.itemsOfValues items) = items ↔ Value.ItemsFinite items
  | [] => iff_of_true rfl trivial
  | item :: rest => by
    rw [Document.itemsOfValues, Document.itemsToValues, List.cons.injEq, Value.ItemsFinite]
    exact and_congr (toValue_ofValue_iff item) (itemsToValues_ofValues_iff rest)

theorem membersToValues_ofValues_iff : ∀ members : List (String × Value),
    Document.membersToValues (Document.membersOfValues members) = members ↔ Value.MembersFinite members
  | [] => iff_of_true rfl trivial
  | (name, value) :: rest => by
    rw [Document.membersOfValues, Document.membersToValues, List.cons.injEq, Prod.mk.injEq, Value.MembersFinite]
    exact and_congr ((and_iff_right rfl).trans (toValue_ofValue_iff value)) (membersToValues_ofValues_iff rest)
end

mutual
theorem ofValue_toValue_iff : ∀ document : Document, Document.ofValue document.toValue = document ↔ document.Signed
  | .null | .boolean _ | .string _ => iff_of_true rfl trivial
  | .number n => ofValue_toValue_number n
  | .array items => by
    rw [Document.toValue, Document.ofValue, Document.array.injEq, Document.Signed]
    exact itemsOfValues_toValues_iff items
  | .object members => by
    rw [Document.toValue, Document.ofValue, Document.object.injEq, Document.Signed]
    exact membersOfValues_toValues_iff members

theorem itemsOfValues_toValues_iff : ∀ items : List Document,
    Document.itemsOfValues (Document.itemsToValues items) = items ↔ Document.ItemsSigned items
  | [] => iff_of_true rfl trivial
  | item :: rest => by
    rw [Document.itemsToValues, Document.itemsOfValues, List.cons.injEq, Document.ItemsSigned]
    exact and_congr (ofValue_toValue_iff item) (itemsOfValues_toValues_iff rest)

theorem membersOfValues_toValues_iff : ∀ members : List (String × Document),
    Document.membersOfValues (Document.membersToValues members) = members ↔ Document.MembersSigned members
  | [] => iff_of_true rfl trivial
  | (name, value) :: rest => by
    rw [Document.membersToValues, Document.membersOfValues, List.cons.injEq, Prod.mk.injEq, Document.MembersSigned]
    exact and_congr ((and_iff_right rfl).trans (ofValue_toValue_iff value)) (membersOfValues_toValues_iff rest)
end

mutual
theorem toValue_floatsFinite : ∀ document : Document, document.toValue.FloatsFinite
  | .null | .boolean _ | .string _ => trivial
  | .number n => toValue_finite n
  | .array items => itemsToValues_finite items
  | .object members => membersToValues_finite members

theorem itemsToValues_finite : ∀ items : List Document, Value.ItemsFinite (Document.itemsToValues items)
  | [] => trivial
  | item :: rest => ⟨toValue_floatsFinite item, itemsToValues_finite rest⟩

theorem membersToValues_finite :
    ∀ members : List (String × Document), Value.MembersFinite (Document.membersToValues members)
  | [] => trivial
  | (_, value) :: rest => ⟨toValue_floatsFinite value, membersToValues_finite rest⟩
end

-- A tree is kept, with the kinds and the order of all its parts, exactly if its doubles are finite, which those
-- of a decoded document are; a document is kept exactly if no integer of it is above those with a sign.
theorem exchange_exact :
    (∀ v : Value, (Document.ofValue v).toValue = v ↔ v.FloatsFinite) ∧
      (∀ document : Document, Document.ofValue document.toValue = document ↔ document.Signed) ∧
      ∀ document : Document, document.toValue.FloatsFinite :=
  ⟨toValue_ofValue_iff, ofValue_toValue_iff, toValue_floatsFinite⟩

-- Both sides of the end of the signed range, and a negative zero.
theorem exchange_exact_ends :
    let v : Value := .object [("b", .array [.float (-0.0), .integer (-9223372036854775808)]), ("a", .float 1e300)]
    let last : Document := .array [.number (.unsigned 9223372036854775807), .number (.negative (-1) (by decide))]
    let beyond : Document := .number (.unsigned 9223372036854775808)
    (Document.ofValue v).toValue = v ∧ Document.ofValue last.toValue = last ∧
      Document.ofValue beyond.toValue ≠ beyond := by
  have zero : (-0.0 : Float).isFinite = true := by decide +kernel
  have large : (1e300 : Float).isFinite = true := by decide +kernel
  have inside : ((9223372036854775807 : UInt64).toNat : Int) ≤ Integer.highest := by decide
  have outside : ¬((9223372036854775808 : UInt64).toNat : Int) ≤ Integer.highest := by decide
  exact ⟨(exchange_exact.1 _).mpr ⟨⟨zero, trivial, trivial⟩, large, trivial⟩,
    (exchange_exact.2.1 _).mpr ⟨inside, trivial, trivial⟩, fun kept => outside ((exchange_exact.2.1 _).mp kept)⟩

end Json
end TreePath
