import TreePath.Path.Text
import TreePath.Path.Same
import TreePath.Value.Location
namespace TreePath

structure Link where
  value : Value
  segment : Path
  isLabel : Bool

-- A link and the links above it, nearest first.
structure Match where
  link : Link
  above : List Link

namespace Match

def start (value : Value) : Match := ⟨⟨value, .this, false⟩, []⟩

def value (m : Match) : Value := m.link.value

def segment (m : Match) : Path := m.link.segment

def isLabel (m : Match) : Bool := m.link.isLabel

def links (m : Match) : List Link := m.link :: m.above

def context? (m : Match) : Option Match :=
  match m.above with
  | [] => none
  | link :: above => some ⟨link, above⟩

def first (m : Match) : Link := m.above.getLastD m.link

def select (m : Match) (segment : Path) (value : Value) : Match :=
  ⟨⟨value, segment, false⟩, m.links⟩

def fullPath (m : Match) : Path := Path.chain (m.links.map Link.segment).reverse

-- The path on which every object that has the field is named by the field's value.
def labelPath (field : String) (m : Match) : Path :=
  Path.chain (m.links.map (fun link =>
    match link.value.get? field with
    | some id => Path.field id.display
    | none => link.segment)).reverse

def label (field : String) (m : Match) : Match :=
  ⟨⟨.string (m.labelPath field).text, .field field, true⟩, m.links⟩

-- Links are taken in turn until one chain ends; its last link is then selected by the path, and what is left of the
-- other chain follows.
def weave (path : Path) : Link → List Link → Link → List Link → List Link
  | link, [], other, others => { link with segment := path } :: other :: others
  | link, next :: above, other, [] => link :: { other with segment := path } :: next :: above
  | link, next :: above, other, next' :: others =>
    link :: other :: weave path next above next' others

-- A match that has a chain of its own keeps its segment, and the context comes right above it.
def inContext (m : Match) (path : Path) (context : Match) : Match :=
  match weave path m.link m.above context.link context.above with
  | link :: above => ⟨link, above⟩
  | [] => m

def sameLink (a b : Link) : Bool :=
  a.value.same b.value && a.segment.same b.segment && a.isLabel == b.isLabel

def sameLinks : List Link → List Link → Bool
  | [], [] => true
  | a :: as, b :: bs => sameLink a b && sameLinks as bs
  | _, _ => false

def same (a b : Match) : Bool := sameLinks a.links b.links

-- A value that is selected by its position from what is no array is that value itself.
def stepFrom (context : Option Value) (location : Location) (link : Link) : Option Location :=
  if link.isLabel then none
  else
    match link.segment with
    | .root => some []
    | .this => some location
    | .fields [name] => some (location ++ [.member name])
    | .index i =>
      match context with
      | some (.array _) =>
        if 0 ≤ i.toInt then some (location ++ [.element i.toInt.toNat]) else none
      | _ => some location
    | _ => none

def locateFrom (context : Option Value) (location : Location) : List Link → Option Location
  | [] => some location
  | link :: below =>
    (stepFrom context location link).bind fun location =>
      locateFrom (some link.value) location below

def location? (m : Match) : Option Location := locateFrom none [] m.links.reverse

end Match
end TreePath
