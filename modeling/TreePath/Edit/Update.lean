import TreePath.Selection.Find
namespace TreePath

structure Target where
  location : Location
  path : Path

structure Replacing where
  current : Value
  tree : Value
  path : Path

def distinctTargets : List Location → List Target → List Target
  | _, [] => []
  | seen, target :: rest =>
    if seen.contains target.location then distinctTargets seen rest
    else target :: distinctTargets (target.location :: seen) rest

def Match.target? (m : Match) : Option Target :=
  m.location?.map (fun location => ⟨location, m.fullPath⟩)

def orderByDepth (a b : Target) : Ordering := compareInt b.location.length a.location.length

-- All matches are located before the first of them is replaced. Values that were computed, and labels, have no
-- location and are passed over.
def Path.targets (labels : Option String) (path : Path) (tree : Value) : List Target :=
  Sorting.sort orderByDepth (distinctTargets [] ((path.find labels tree).filterMap Match.target?))

-- Deeper places come before what contains them. The replacement is a function of a state, which it passes on.
def replaceTargets {σ : Type} (replacement : Replacing → σ → Value × σ) :
    List Target → Value → σ → Value × σ
  | [], tree, state => (tree, state)
  | target :: rest, tree, state =>
    match tree.resolve? target.location with
    | none => replaceTargets replacement rest tree state
    | some current =>
      let (value, state) := replacement ⟨current, tree, target.path⟩ state
      replaceTargets replacement rest ((tree.write? target.location value).getD tree) state

def Path.updateWith {σ : Type} (labels : Option String) (path : Path)
    (replacement : Replacing → σ → Value × σ) (tree : Value) (state : σ) : Value × σ :=
  replaceTargets replacement (path.targets labels tree) tree state

def Path.update (labels : Option String) (path : Path) (tree value : Value) : Value :=
  (path.updateWith labels (fun _ (_ : Unit) => (value, ())) tree ()).1

end TreePath
