import Std.Data.HashMap
import TreePath.Regex.Syntax
import TreePath.Regex.Utf8
namespace TreePath.Regex

inductive Heading where
  | forwards
  | backwards
deriving DecidableEq

-- A state takes 32 bytes, an arc out of a set of characters eight, and a way out of a split four.
structure Space where
  states : Nat
  extra : Nat
  endsInSplit : Bool

namespace Space

def bytes (s : Space) : Nat := 32 * s.states + s.extra

def isFull (s : Space) : Bool := decide (sizeLimit < s.bytes)

def add (s : Space) (states extra : Nat) : Space := ⟨s.states + states, s.extra + extra, false⟩

def onward (s : Space) : Space := { s with extra := s.extra + (if s.endsInSplit then 4 else 0) }

def endingInSplit (s : Space) : Space := { s with endsInSplit := true }

end Space

def mix (numbers : List Nat) : UInt64 :=
  numbers.foldl (fun h n => (h ^^^ n.toUInt64) * 1099511628211) 14695981039346656037

-- What has been built, by the slot of its hash. A slot remembers only what came last.
abbrev Memory (α : Type) := Std.HashMap Nat (α × Nat)

structure Arc where
  range : Utf8.ByteRange
  target : Nat
deriving DecidableEq

structure OpenState where
  arcs : List Arc
  range : Option Utf8.ByteRange

def OpenState.close (s : OpenState) (target : Nat) : List Arc :=
  match s.range with
  | some range => (⟨range, target⟩ :: s.arcs).reverse
  | none => s.arcs.reverse

structure Growth where
  next : Nat
  arcs : Nat
  memory : Memory (List Arc)
  path : List OpenState

def Growth.state (g : Growth) (arcs : List Arc) : Nat × Growth :=
  let numbers := arcs.flatMap fun a => [a.range.1, a.range.2, a.target]
  let slot := (mix numbers % 10000).toNat
  let fresh :=
    (g.next, { g with
      next := g.next + 1
      arcs := g.arcs + arcs.length
      memory := g.memory.insert slot (arcs, g.next) })
  match g.memory[slot]? with
  | some (known, number) => if known = arcs then (number, g) else fresh
  | none => fresh

-- A turn closes one state.
def Growth.closeIn : Nat → Nat → Nat → Growth → Growth
  | 0, _, _, g => g
  | turns + 1, kept, target, g =>
    match g.path with
    | [] => g
    | deepest :: above =>
      if g.path.length ≤ kept then
        { g with path := ⟨(deepest.close target).reverse, none⟩ :: above }
      else
        let (number, g) := { g with path := above }.state (deepest.close target)
        closeIn turns kept number g

def Growth.closeTo (kept target : Nat) (g : Growth) : Growth :=
  closeIn (g.path.length + 1) kept target g

def Growth.add (target : Nat) (g : Growth) (sequence : List Utf8.ByteRange) : Growth :=
  let shared :=
    ((sequence.zip g.path.reverse).takeWhile fun (range, state) => state.range = some range).length
  let g := g.closeTo (shared + 1) target
  match sequence.drop shared, g.path with
  | range :: others, state :: above =>
    let deeper : List OpenState := others.reverse.map fun range => ⟨[], some range⟩
    { g with path := deeper ++ { state with range := some range } :: above }
  | _, _ => g

-- Reading forwards, equal ends of sequences share their states.
def forwardSet (sequences : List (List Utf8.ByteRange)) (s : Space) : Space :=
  let start : Growth := ⟨s.states + 1, 0, ∅, [⟨[], none⟩]⟩
  let g := (sequences.foldl (Growth.add s.states) start).closeTo 0 s.states
  ⟨g.next, s.extra + 8 * g.arcs, false⟩

-- Reading backwards, equal beginnings share their states, as long as they are remembered.
def backwardSequence (ending : Nat) (state : Nat × Memory (Nat × Utf8.ByteRange))
    (sequence : List Utf8.ByteRange) : Nat × Memory (Nat × Utf8.ByteRange) :=
  let step (state : Nat × Nat × Memory (Nat × Utf8.ByteRange)) (range : Utf8.ByteRange) :=
    let (after, next, memory) := state
    let slot := (mix [after, range.1, range.2] % 1000).toNat
    let fresh := (next, next + 1, memory.insert slot ((after, range), next))
    match memory[slot]? with
    | some (known, number) => if known = (after, range) then (number, next, memory) else fresh
    | none => fresh
  (sequence.foldl step (ending, state)).2

def backwardSet (sequences : List (List Utf8.ByteRange)) (s : Space) : Space :=
  let (next, _) := sequences.foldl (backwardSequence (s.states + 1)) (s.states + 2, ∅)
  ⟨next, s.extra + 4 * sequences.length, false⟩

def setSpace (heading : Heading) (chars : CodeRanges) (s : Space) : Space :=
  if chars.isAscii then s.add 2 (8 * chars.ranges.size)
  else
    let sequences := chars.ranges.toList.flatMap Utf8.sequences
    match heading with
    | .forwards => forwardSet sequences s
    | .backwards => backwardSet sequences s

def wordRuns : List (List Nat) → List (List (List Nat))
  | [] => [[]]
  | [] :: words => [] :: wordRuns words
  | word :: words =>
    match wordRuns words with
    | run :: others => (word :: run) :: others
    | [] => [[word]]

def mergeUsedUp : List (List Nat) → List (List Nat)
  | [] :: words => [] :: words.dropWhile List.isEmpty
  | words => words

def followers (words : List (List Nat)) : List (List (List Nat)) :=
  let firsts := (words.filterMap List.head?).eraseDups
  firsts.map fun first => (words.filter fun word => word.head? = some first).map List.tail

-- No node is deeper than the longest word. A node without a word that goes on is the end.
def treeSpace : Nat → List (List Nat) → Space → Space
  | 0, _, s => s
  | turns + 1, words, s =>
    let runs := wordRuns (mergeUsedUp words)
    let addRun (s : Space) (run : List (List Nat)) : Space :=
      let branches := followers run
      let s := branches.foldl
        (fun s branch => if branch.all List.isEmpty then s else treeSpace turns branch s) s
      match branches.length with
      | 0 => s
      | 1 => s.add 1 0
      | n => s.add 1 (8 * n)
    let ways := (runs.filter fun run => !run.isEmpty).length + (runs.length - 1)
    (runs.foldl addRun s).add 1 (4 * ways)

def words? (node : Node) : Option (List (List Nat)) :=
  node.options.mapM fun option =>
    match option with
    | .literal codes => some (codes.flatMap Utf8.encode)
    | _ => none

def wordsSpace (heading : Heading) (words : List (List Nat)) (s : Space) : Space :=
  let words :=
    match heading with
    | .forwards => words
    | .backwards => words.map List.reverse
  treeSpace ((words.map List.length).foldl Nat.max 0 + 1) words (s.add 1 0)

def turnsSpace (turn : Space → Space) : Nat → Space → Space
  | 0, s => s
  | n + 1, s => if s.isFull then s else turnsSpace turn n (turn s.onward)

def exactly (turn : Space → Space) (n : Nat) (s : Space) : Space :=
  match n with
  | 0 => s.add 1 0
  | n + 1 => turnsSpace turn n (turn s)

inductive Place where
  | whole
  | second
  | later

def Place.join (place : Place) (s : Space) : Space :=
  match place with
  | whole => s
  | second => s.onward.add 2 8
  | later => s.onward.add 0 4

def Node.space (heading : Heading) : Node → Place → Space → Space
  | .empty, place, s => place.join (s.add 1 0)
  | .literal codes, place, s => place.join (s.add (codes.flatMap Utf8.encode).length 0)
  | .set chars, place, s => place.join (setSpace heading chars s)
  | .look _, place, s => place.join (s.add 1 0)
  | .group _ body, place, s =>
    match heading with
    | .forwards => place.join ((body.space heading .whole (s.add 1 0)).onward.add 1 0)
    | .backwards => place.join (body.space heading .whole s)
  | .seq first rest, place, s =>
    match heading with
    | .forwards =>
      place.join (rest.space heading .whole (first.space heading .whole s).onward)
    | .backwards =>
      place.join (first.space heading .whole (rest.space heading .whole s).onward)
  | .alt first rest, place, s =>
    match place, words? (.alt first rest) with
    | .whole, some words => wordsSpace heading words s
    | .whole, none => rest.space heading .second (first.space heading .whole s).onward
    | place, _ => rest.space heading .later (place.join (first.space heading .whole s))
  | .loop body least most _, place, s =>
    let turn := body.space heading .whole
    match least, most with
    | 0, some 1 => place.join ((turn (s.add 1 8)).onward.add 1 0)
    | least, some most =>
      if least = most then place.join (exactly turn least s)
      else
        let optional (s : Space) : Space := turn (s.add 1 8)
        let required := (exactly turn least s).onward
        let s := turnsSpace optional (most - least) (required.add 1 0)
        place.join (s.onward.add 0 0)
    | 0, none =>
      if body.canBeEmpty then place.join ((turn s).onward.add 3 16)
      else place.join ((turn (s.add 1 4)).onward.endingInSplit)
    | least + 1, none =>
      place.join ((exactly turn (least + 1) s).onward.add 1 4).endingInSplit

def Node.isAnchored (heading : Heading) : Node → Bool
  | .look condition =>
    match heading with
    | .forwards => condition = .textStart
    | .backwards => condition = .textEnd
  | .group _ body => body.isAnchored heading
  | .seq first rest =>
    match heading with
    | .forwards =>
      first.isAnchored heading || (first.isWidthless && rest.isAnchored heading)
    | .backwards =>
      rest.isAnchored heading || (rest.isWidthless && first.isAnchored heading)
  | .alt first rest => first.isAnchored heading && rest.isAnchored heading
  | .loop body least _ _ => decide (0 < least) && body.isAnchored heading
  | _ => false

-- Unless matches are anchored, it first passes over any bytes.
def Node.automaton (heading : Heading) (node : Node) : Space :=
  let before : Space := if node.isAnchored heading then ⟨1, 0, false⟩ else ⟨3, 16, false⟩
  ((Node.group 0 node).space heading .whole before).onward.add 1 0

def Node.isTooLarge (node : Node) : Bool :=
  (node.automaton .forwards).isFull || (node.automaton .backwards).isFull

end TreePath.Regex
