import TreePath.Regex.CategoryTable
import TreePath.Regex.SetTable
namespace TreePath.Regex

def everything : CodeRanges := ⟨#[(0, CodeRanges.highest)]⟩

def surrogates : CodeRanges := ⟨#[(0xD800, 0xDFFF)]⟩

def categoryEntries : List NamedRanges := tableEntries categoryTable

def categories (names : List String) : CodeRanges := tableUnion categoryEntries names

def assigned : CodeRanges :=
  CodeRanges.ofList (categoryEntries.flatMap fun entry => (setOfText entry.2).ranges.toList)

def unassigned : CodeRanges := (assigned.union surrogates).complement

def letters : CodeRanges := categories ["Lu", "Ll", "Lt", "Lm", "Lo"]

def marks : CodeRanges := categories ["Mn", "Mc", "Me"]

-- Surrogates are no characters, so their category has no name here.
def categoryClasses : List (List String × List String) :=
  [(["l", "letter"], ["Lu", "Ll", "Lt", "Lm", "Lo"]),
   (["lc", "casedletter"], ["Lu", "Ll", "Lt"]),
   (["m", "mark", "combiningmark"], ["Mn", "Mc", "Me"]),
   (["n", "number"], ["Nd", "Nl", "No"]),
   (["p", "punctuation", "punct"], ["Pc", "Pd", "Pe", "Pf", "Pi", "Po", "Ps"]),
   (["s", "symbol"], ["Sc", "Sk", "Sm", "So"]),
   (["z", "separator"], ["Zl", "Zp", "Zs"])]

def category? (name : List Char) : Option CodeRanges :=
  match String.ofList name with
  | "any" => some everything
  | "ascii" => some ⟨#[(0, 127)]⟩
  | "assigned" => some unassigned.complement
  | "cn" | "unassigned" => some unassigned
  | "c" | "other" => some (unassigned.union (categories ["Cc", "Cf", "Co"]))
  | _ =>
    match categoryClasses.find? (fun entry => entry.1.any (fun n => n.toList == name)) with
    | some (_, names) => some (categories names)
    | none => tableSet? categoryEntries name

end TreePath.Regex
