import TreePath.Regex.Property
import TreePath.Regex.FoldTable
namespace TreePath.Regex

def digits : CodeRanges := categories ["Nd"]

def spaces : CodeRanges := listed ["White_Space"]

def words : CodeRanges :=
  (alphabetic.union (marks.union (categories ["Nd", "Pc"]))).union (listed ["Join_Control"])

def asciiDigits : CodeRanges := CodeRanges.ofText "30-39"
def asciiSpaces : CodeRanges := CodeRanges.ofText "9-D 20"
def asciiWords : CodeRanges := CodeRanges.ofText "30-39 41-5A 5F 61-7A"

def asciiClass? (name : String) : Option CodeRanges :=
  match name with
  | "alnum" => some (CodeRanges.ofText "30-39 41-5A 61-7A")
  | "alpha" => some (CodeRanges.ofText "41-5A 61-7A")
  | "ascii" => some (CodeRanges.ofText "0-7F")
  | "blank" => some (CodeRanges.ofText "9 20")
  | "cntrl" => some (CodeRanges.ofText "0-1F 7F")
  | "digit" => some asciiDigits
  | "graph" => some (CodeRanges.ofText "21-7E")
  | "lower" => some (CodeRanges.ofText "61-7A")
  | "print" => some (CodeRanges.ofText "20-7E")
  | "punct" => some (CodeRanges.ofText "21-2F 3A-40 5B-60 7B-7E")
  | "space" => some asciiSpaces
  | "upper" => some (CodeRanges.ofText "41-5A")
  | "word" => some asciiWords
  | "xdigit" => some (CodeRanges.ofText "30-39 41-46 61-66")
  | _ => none

def foldGroups : List (List Nat) :=
  (Pieces.split [','] foldTable.toList).map fun group =>
    (CodeRanges.read group ⟨none, none⟩ []).map Prod.fst

def ignoreCase (set : CodeRanges) : CodeRanges :=
  let added := foldGroups.filter (fun group => group.any set.contains)
  CodeRanges.ofList (set.ranges.toList ++ added.flatMap (fun group => group.map (fun c => (c, c))))

def ignoreAsciiCase (set : CodeRanges) : CodeRanges :=
  let upper := (List.range 26).filter (fun i => set.contains (97 + i))
  let lower := (List.range 26).filter (fun i => set.contains (65 + i))
  CodeRanges.ofList (set.ranges.toList ++ upper.map (fun i => (65 + i, 65 + i)) ++
    lower.map (fun i => (97 + i, 97 + i)))

end TreePath.Regex
