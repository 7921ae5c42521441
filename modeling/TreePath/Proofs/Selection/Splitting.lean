import TreePath.Proofs.Selection.Slices
import TreePath.Proofs.Text.Pieces
import TreePath.Selection.Named
namespace TreePath

variable {separator text : String} {limit index : Int64} {start stop : Option Int64}

namespace Slice

theorem filterMap_range' {α : Type} (items : List α) (first count : Nat) :
    (List.range' first count).filterMap (fun n => items[n]?) = (items.drop first).take count := by
  induction count generalizing first with
  | zero => simp
  | succ count ih =>
    rw [List.range'_succ, List.filterMap_cons, ih]
    cases here : items[first]? with
    | none =>
      have beyond := List.getElem?_eq_none_iff.mp here
      simp [List.drop_of_length_le, beyond, Nat.le_succ_of_le]
    | some item =>
      obtain ⟨inside, rfl⟩ := List.getElem?_eq_some_iff.mp here
      rw [List.drop_eq_getElem_cons inside, List.take_succ_cons]

-- A slice forth is what lies in front of its stop, without what lies in front of its start.
theorem elements_forth {α : Type} (items : List α) (start stop : Option Int64) :
    (positions items.length start stop none).filterMap (fun n => items[n]?) =
      (items.take (exit items.length stop 1).toNat).drop (entry items.length start 1).toNat := by
  have starts : 0 ≤ entry items.length start 1 := (entry_bounds items.length start 1).1
  have width : (exit items.length stop 1 - entry items.length start 1).toNat =
      (exit items.length stop 1).toNat - (entry items.length start 1).toNat := by omega
  rw [positions_forth, filterMap_range', List.drop_take, width]

-- An index counts from the front, and below zero from the back.
theorem element_at {α : Type} (items : List α) (index : Int64) :
    (position? index items.length).bind (fun n => items[n]?) =
      if 0 ≤ index.toInt then items[index.toInt.toNat]? else items.reverse[(-index.toInt - 1).toNat]? := by
  unfold position?
  generalize index.toInt = i
  dsimp only
  by_cases front : 0 ≤ i
  · rw [if_neg (not_lt.mpr front), if_pos front]
    by_cases inside : i < items.length
    · simp [front, inside]
    · have beyond : items.length ≤ i.toNat := by omega
      simp [inside, beyond]
  · rw [if_pos (not_le.mp front), if_neg front]
    by_cases inside : 0 ≤ i + items.length
    · have place : (-i - 1).toNat < items.length := by omega
      have same : items.length - 1 - (-i - 1).toNat = (i + items.length).toNat := by omega
      have below : i + items.length < items.length := by omega
      rw [if_pos ⟨inside, below⟩, List.getElem?_reverse place, same]
      rfl
    · have beyond : items.reverse.length ≤ (-i - 1).toNat := by
        rw [List.length_reverse]
        omega
      rw [if_neg fun both => inside both.1, List.getElem?_eq_none beyond]
      rfl

end Slice

namespace NamedOperator

-- The pieces, as texts.
def piecesOf (separator text : String) (limit : Int64) : List String :=
  (splitPieces separator.toList text.toList limit).map String.ofList

theorem toList_piecesOf (separator text : String) (limit : Int64) :
    (piecesOf separator text limit).map String.toList = splitPieces separator.toList text.toList limit := by
  simp [piecesOf, Function.comp_def]

theorem ofList_join (separator : String) (pieces : List (List Char)) :
    String.ofList (Pieces.join separator.toList pieces) = separator.intercalate (pieces.map String.ofList) := by
  apply String.toList_inj.mp
  rw [Pieces.join_eq_intercalate, String.toList_intercalate]
  simp [Function.comp_def]

theorem splitText_piece : splitText separator (.piece index) limit text =
    (Slice.position? index (piecesOf separator text limit).length).bind
      (fun n => (piecesOf separator text limit)[n]?) := by
  unfold splitText piecesOf
  rw [List.length_map]
  simp [Option.map_bind]

theorem splitText_range : splitText separator (.range start stop) limit text =
    some (separator.intercalate ((Slice.positions (piecesOf separator text limit).length start stop none).filterMap
      (fun n => (piecesOf separator text limit)[n]?))) := by
  unfold splitText piecesOf
  dsimp only
  rw [ofList_join, List.map_filterMap, List.length_map]
  simp

-- Only a limit that is reached leaves separators in the rest.
theorem splitPieces_cut {separator : List Char} (nonempty : separator ≠ []) (text : List Char) (limit : Int64) :
    ∃ cuts : Nat, Pieces.Cut separator cuts text (splitPieces separator text limit) ∧
      (0 ≤ limit.toInt → cuts ≤ limit.toInt) ∧
      ∀ last ∈ (splitPieces separator text limit).getLast?, separator <:+: last → cuts = limit.toInt := by
  unfold splitPieces
  split
  · rename_i unlimited
    obtain ⟨cuts, cut, last⟩ := Pieces.split_cut nonempty text
    exact ⟨cuts, cut, fun limited => absurd unlimited (not_lt.mpr limited),
      fun piece here inside => absurd inside (last piece here)⟩
  · rename_i limited
    obtain ⟨cuts, few, cut, last⟩ := Pieces.splitAtMost_cut nonempty limit.toInt.toNat text
    refine ⟨cuts, cut, fun _ => by omega, fun piece here inside => ?_⟩
    by_contra fewer
    exact last (by omega) piece here inside

theorem intercalate_of_cut {pieces : List String} {cuts : Nat}
    (cut : Pieces.Cut separator.toList cuts text.toList (pieces.map String.toList)) :
    separator.intercalate pieces = text := by
  apply String.toList_inj.mp
  rw [String.toList_intercalate, ← Pieces.join_eq_intercalate, cut.join]

-- Splitting cuts a text at its first separators, as many as the limit allows, and loses nothing: the pieces joined
-- again are the text. An index finds one piece, from the back below zero, and a slice those that lie between its
-- ends, joined.
theorem splitText_exact (separator text : String) (limit : Int64) (nonempty : separator ≠ "") :
    let pieces := piecesOf separator text limit
    let n := pieces.length
    let select (selector : Selector) := splitText separator selector limit text
    (∃ cuts : Nat, Pieces.Cut separator.toList cuts text.toList (pieces.map String.toList) ∧
      n = cuts + 1 ∧
      (0 ≤ limit.toInt → n ≤ limit.toInt + 1) ∧
      (∀ piece ∈ pieces.dropLast, ¬separator.toList <:+: piece.toList) ∧
      ∀ last ∈ pieces.getLast?, separator.toList <:+: last.toList → cuts = limit.toInt) ∧
    select (.range none none) = some text ∧
    (∀ i, select (.piece i) =
      if 0 ≤ i.toInt then pieces[i.toInt.toNat]? else pieces.reverse[(-i.toInt - 1).toNat]?) ∧
    (∀ i, (select (.piece i)).isSome ↔ -n ≤ i.toInt ∧ i.toInt < n) ∧
    ∀ start stop, select (.range start stop) = some (separator.intercalate
      ((pieces.take (Slice.exit n stop 1).toNat).drop (Slice.entry n start 1).toNat)) := by
  intro pieces n select
  have separating : separator.toList ≠ [] := by simpa using nonempty
  obtain ⟨cuts, cut, few, last⟩ := splitPieces_cut separating text.toList limit
  rw [← toList_piecesOf] at cut last
  have count : n = cuts + 1 := by
    have lengths := cut.length_eq
    rwa [List.length_map] at lengths
  have single (i : Int64) : select (.piece i) =
      if 0 ≤ i.toInt then pieces[i.toInt.toNat]? else pieces.reverse[(-i.toInt - 1).toNat]? :=
    splitText_piece.trans (Slice.element_at pieces i)
  have joined (start stop : Option Int64) : select (.range start stop) = some (separator.intercalate
      ((pieces.take (Slice.exit n stop 1).toNat).drop (Slice.entry n start 1).toNat)) := by
    rw [← Slice.elements_forth]
    exact splitText_range
  refine ⟨⟨cuts, cut, count, ?_, ?_, ?_⟩, ?_, single, ?_, joined⟩
  · intro limited
    have bound := few limited
    omega
  · intro piece here
    apply cut.inner
    rw [← List.map_dropLast]
    exact List.mem_map_of_mem here
  · intro piece here
    apply last
    rw [List.getLast?_map]
    exact Option.mem_map_of_mem _ here
  · have first : Slice.entry n none 1 = 0 := rfl
    have behind : Slice.exit n none 1 = n := rfl
    rw [joined, first, behind, Int.toNat_natCast, List.take_length]
    exact congrArg some (intercalate_of_cut cut)
  · intro i
    rw [single]
    split
    · rw [isSome_getElem?]
      omega
    · rw [isSome_getElem?, List.length_reverse]
      omega

-- A separator that overlaps itself, cut at most once.
theorem splitText_exact_overlapping :
    "aa" ≠ "" ∧ piecesOf "aa" "baaaaac" 1 = ["b", "aaac"] ∧
      splitText "aa" (.range none none) 1 "baaaaac" = some "baaaaac" := by
  have nonempty : "aa" ≠ "" := by decide
  have pieces : piecesOf "aa" "baaaaac" 1 = ["b", "aaac"] := by decide
  obtain ⟨-, full, -⟩ := splitText_exact "aa" "baaaaac" 1 nonempty
  exact ⟨nonempty, pieces, full⟩

end NamedOperator

end TreePath
