import Mathlib.Data.List.Infix
import TreePath.Text.Pieces
namespace TreePath.Pieces

variable {separator text before after : List Char} {pieces : List (List Char)} {cuts limit : Nat}

theorem isPrefixOf?_none_iff : separator.isPrefixOf? text = none ↔ ¬separator <+: text := by
  rw [Option.eq_none_iff_forall_ne_some]
  constructor
  · rintro none ⟨rest, same⟩
    exact none rest (List.isPrefixOf?_eq_some_iff_append_eq.mpr same)
  · intro apart rest found
    exact apart ⟨rest, List.isPrefixOf?_eq_some_iff_append_eq.mp found⟩

theorem cut?_none_iff : cut? separator text = none ↔ ¬separator <:+: text := by
  induction text with
  | nil => simp [cut?]
  | cons c rest ih =>
    rw [cut?, List.infix_cons_iff, not_or]
    split
    · rename_i after here
      have begins : separator <+: c :: rest := ⟨after, List.isPrefixOf?_eq_some_iff_append_eq.mp here⟩
      simp [begins]
    · rename_i apart
      simp [isPrefixOf?_none_iff.mp apart, ih]

-- No occurrence begins left of the one that is found: one that does would lie in what stands before the separator,
-- with all of it but its last character.
def First (separator before : List Char) : Prop := ¬separator <:+: before ++ separator.dropLast

theorem not_infix_dropLast (nonempty : separator ≠ []) : ¬separator <:+: separator.dropLast := by
  intro inside
  have short := inside.length_le
  rw [List.length_dropLast] at short
  have long := List.length_pos_of_ne_nil nonempty
  omega

theorem First.notInfix (first : First separator before) : ¬separator <:+: before :=
  fun inside => first (inside.trans (List.prefix_append before _).isInfix)

theorem shorter_begins (before after : List Char) :
    before ++ separator.dropLast <+: before ++ (separator ++ after) :=
  (List.prefix_append_right_inj before).mpr ((List.dropLast_prefix separator).trans (List.prefix_append _ _))

theorem cut?_some (nonempty : separator ≠ []) (found : cut? separator text = some (before, after)) :
    text = before ++ (separator ++ after) ∧ First separator before := by
  induction text generalizing before with
  | nil =>
    rw [cut?, if_neg nonempty] at found
    cases found
  | cons c rest ih =>
    rw [cut?] at found
    split at found
    · rename_i here
      cases found
      exact ⟨(List.isPrefixOf?_eq_some_iff_append_eq.mp here).symm, not_infix_dropLast nonempty⟩
    · rename_i apart
      obtain ⟨⟨later, behind⟩, within, same⟩ := Option.map_eq_some_iff.mp found
      cases same
      obtain ⟨rfl, first⟩ := ih within
      refine ⟨rfl, fun inside => ?_⟩
      rw [List.cons_append, List.infix_cons_iff] at inside
      rcases inside with begins | inside
      · have whole := begins.trans ((List.prefix_cons_inj c).mpr (shorter_begins later behind))
        exact isPrefixOf?_none_iff.mp apart whole
      · exact first inside

theorem cut?_first (nonempty : separator ≠ []) (first : First separator before) :
    cut? separator (before ++ (separator ++ after)) = some (before, after) := by
  induction before with
  | nil =>
    obtain ⟨c, rest, rfl⟩ := List.exists_cons_of_ne_nil nonempty
    have here := List.isPrefixOf?_eq_some_iff_append_eq.mpr (rfl : (c :: rest) ++ after = _)
    rw [List.nil_append, List.cons_append, cut?, ← List.cons_append, here]
  | cons c before ih =>
    unfold First at first
    rw [List.cons_append] at first
    have apart : separator.isPrefixOf? (c :: (before ++ (separator ++ after))) = none := by
      refine isPrefixOf?_none_iff.mpr fun begins => first (List.IsPrefix.isInfix ?_)
      have front := (List.prefix_cons_inj c).mpr (@shorter_begins separator before after)
      refine List.prefix_of_prefix_length_le begins front ?_
      have long := List.length_pos_of_ne_nil nonempty
      simp only [List.length_cons, List.length_append, List.length_dropLast]
      omega
    have later := ih fun inside => first (inside.trans (List.suffix_cons c _).isInfix)
    rw [List.cons_append, cut?, apart, later]
    rfl

-- The last occurrence is the first one from the back.
theorem cutLast?_last (nonempty : separator ≠ []) (final : ¬separator <:+: separator.tail ++ after) :
    cutLast? separator (before ++ (separator ++ after)) = some (before, after) := by
  have reversed : (before ++ (separator ++ after)).reverse =
      after.reverse ++ (separator.reverse ++ before.reverse) := by simp
  have first : First separator.reverse after.reverse := by
    unfold First
    rw [List.dropLast_reverse, ← List.reverse_append, List.reverse_infix]
    exact final
  rw [cutLast?, reversed, cut?_first (by simpa using nonempty) first]
  simp

-- A text cut so many times: each piece goes up to the first occurrence in what is left, and the last one holds the
-- rest.
inductive Cut (separator : List Char) : Nat → List Char → List (List Char) → Prop where
  | whole (text : List Char) : Cut separator 0 text [text]
  | further (cuts : Nat) (before after : List Char) (pieces : List (List Char)) (first : First separator before)
      (later : Cut separator cuts after pieces) :
      Cut separator (cuts + 1) (before ++ (separator ++ after)) (before :: pieces)

theorem Cut.length_eq (cut : Cut separator cuts text pieces) : pieces.length = cuts + 1 := by
  induction cut with
  | whole => rfl
  | further cuts before after pieces first later ih => rw [List.length_cons, ih]

theorem Cut.ne_nil (cut : Cut separator cuts text pieces) : pieces ≠ [] :=
  List.ne_nil_of_length_eq_add_one cut.length_eq

theorem join_cons {piece : List Char} (more : pieces ≠ []) :
    join separator (piece :: pieces) = piece ++ separator ++ join separator pieces := by
  cases pieces with
  | nil => exact absurd rfl more
  | cons => rfl

theorem join_eq_intercalate (separator : List Char) (pieces : List (List Char)) :
    join separator pieces = separator.intercalate pieces := by
  fun_induction join separator pieces with
  | case1 => rfl
  | case2 piece => simp
  | case3 piece rest more ih => rw [List.intercalate_cons_of_ne_nil more, ih]

theorem Cut.join (cut : Cut separator cuts text pieces) : join separator pieces = text := by
  induction cut with
  | whole => rfl
  | further cuts before after pieces first later ih => rw [join_cons later.ne_nil, ih, List.append_assoc]

theorem Cut.inner (cut : Cut separator cuts text pieces) : ∀ piece ∈ pieces.dropLast, ¬separator <:+: piece := by
  induction cut with
  | whole => simp
  | further cuts before after pieces first later ih =>
    rw [List.dropLast_cons_of_ne_nil later.ne_nil]
    intro piece here
    rcases List.mem_cons.mp here with rfl | here
    · exact first.notInfix
    · exact ih piece here

-- The pieces on the way lack the separator, and so does the last one if there were cuts left.
theorem splitAtMost_cut (nonempty : separator ≠ []) (limit : Nat) (text : List Char) :
    ∃ cuts ≤ limit, Cut separator cuts text (splitAtMost separator limit text) ∧
      (cuts < limit → ∀ last ∈ (splitAtMost separator limit text).getLast?, ¬separator <:+: last) := by
  fun_induction splitAtMost separator limit text with
  | case1 text => exact ⟨0, le_refl 0, .whole text, nofun⟩
  | case2 limit text none =>
    refine ⟨0, Nat.zero_le _, .whole text, ?_⟩
    rintro _ last ⟨⟩
    exact cut?_none_iff.mp none
  | case3 limit text before after found ih =>
    obtain ⟨rfl, first⟩ := cut?_some nonempty found
    obtain ⟨cuts, few, cut, last⟩ := ih
    refine ⟨cuts + 1, Nat.succ_le_succ few, .further cuts before after _ first cut, fun fewer => ?_⟩
    rw [List.getLast?_cons_of_ne_nil cut.ne_nil]
    exact last (Nat.lt_of_succ_lt_succ fewer)

-- Each cut takes at least one character out of the text.
theorem Cut.length_le (nonempty : separator ≠ []) (cut : Cut separator cuts text pieces) :
    ∀ last ∈ pieces.getLast?, cuts + last.length ≤ text.length := by
  have wide := List.length_pos_of_ne_nil nonempty
  induction cut with
  | whole text =>
    rintro last ⟨⟩
    exact Nat.le_of_eq (Nat.zero_add _)
  | further cuts before after pieces first later ih =>
    rw [List.getLast?_cons_of_ne_nil later.ne_nil]
    intro last here
    have rest := ih last here
    simp only [List.length_append]
    omega

-- After as many cuts as there are characters nothing is left, so the last piece lacks the separator in any case.
theorem split_cut (nonempty : separator ≠ []) (text : List Char) :
    ∃ cuts, Cut separator cuts text (split separator text) ∧
      ∀ last ∈ (split separator text).getLast?, ¬separator <:+: last := by
  obtain ⟨cuts, few, cut, fewer⟩ := splitAtMost_cut nonempty text.length text
  refine ⟨cuts, cut, fun last here inside => ?_⟩
  have room := cut.length_le nonempty last here
  have wide := List.length_pos_of_ne_nil nonempty
  have long := inside.length_le
  exact fewer (by omega) last here inside

end TreePath.Pieces
