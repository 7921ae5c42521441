import TreePath.Text.CodeRanges
import TreePath.Text.Pieces
namespace TreePath.Regex

abbrev NamedRanges := List (List Char) × List Char

-- Case, blanks, hyphens, underscores and a leading `is` make no difference, but the one name that would be left with
-- nothing but a `c` keeps its `is`.
def looseName (name : List Char) : List Char :=
  let kept := (name.filter (fun c => c ≠ ' ' && c ≠ '_' && c ≠ '-' && decide (c.toNat < 128))).map
    Char.toLower
  match name, kept with
  | a :: b :: _, 'i' :: 's' :: rest =>
    if (a = 'i' ∨ a = 'I') ∧ (b = 's' ∨ b = 'S') ∧ rest ≠ ['c'] then rest else kept
  | _, _ => kept

def tableEntries (table : String) : List NamedRanges :=
  (Pieces.split [';'] table.toList).filterMap fun entry =>
    (Pieces.cut? [':'] entry).map fun (names, ranges) =>
      ((Pieces.split [' '] (Pieces.trim names)).map looseName, ranges)

def setOfText (text : List Char) : CodeRanges :=
  ⟨(CodeRanges.read text ⟨none, none⟩ []).toArray⟩

def tableSet? (entries : List NamedRanges) (name : List Char) : Option CodeRanges :=
  (entries.find? (fun entry => entry.1.contains name)).map (fun entry => setOfText entry.2)

def tableUnion (entries : List NamedRanges) (names : List String) : CodeRanges :=
  CodeRanges.ofList (names.flatMap fun name =>
    ((tableSet? entries (looseName name.toList)).getD CodeRanges.empty).ranges.toList)

end TreePath.Regex
