import TreePath.Selection.Slice
import TreePath.Selection.Sort
import TreePath.Value.Printer
namespace TreePath.NamedOperator

def splitPieces (separator text : List Char) (limit : Int64) : List (List Char) :=
  if limit.toInt < 0 then Pieces.split separator text
  else Pieces.splitAtMost separator limit.toInt.toNat text

def splitText (separator : String) (selector : Selector) (limit : Int64) (text : String) :
    Option String :=
  let pieces := splitPieces separator.toList text.toList limit
  match selector with
  | .piece i => ((Slice.position? i pieces.length).bind (fun n => pieces[n]?)).map String.ofList
  | .range start stop =>
    let selected := (Slice.positions pieces.length start stop none).filterMap (fun n => pieces[n]?)
    some (String.ofList (Pieces.join separator.toList selected))

-- A text with every match of the pattern replaced; none if that changes nothing.
def substitute (pattern : Pattern) (template text : String) : Option String :=
  let replaced := pattern.replaceAll template text
  if replaced = text then none else some replaced

def values (value : Value) : NamedOperator → List Value
  | len => (value.length?.map (fun n => Value.integer (Int64.ofNat n))).toList
  | keys =>
    match value with
    | .object members => members.map (fun member => Value.string member.1)
    | _ => []
  | sorted => (Sorting.sorted? value).toList
  | str => [.string value.display]
  | sub pattern template =>
    ((value.text?.bind (substitute pattern template)).map Value.string).toList
  | split separator selector limit =>
    ((value.text?.bind (splitText separator selector limit)).map Value.string).toList

end TreePath.NamedOperator
