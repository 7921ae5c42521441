import TreePath.Regex.Program
import TreePath.Regex.CharSet
namespace TreePath.Regex

abbrev Slots := Array (Option Nat)

structure Thread where
  label : Label
  slots : Slots

def isWordAt (wide : Bool) (text : Array Char) (position : Nat) : Bool :=
  match text[position]? with
  | some c => (if wide then words else asciiWords).contains c.toNat
  | none => false

def before (position : Nat) (test : Nat → Bool) : Bool :=
  match position with
  | 0 => false
  | n + 1 => test n

def isChar (text : Array Char) (c : Char) (position : Nat) : Bool := text[position]? == some c

def Boundary.holds (boundary : Boundary) (left right : Bool) : Bool :=
  match boundary with
  | edge => left != right
  | noEdge => left == right
  | start => !left && right
  | finish => left && !right
  | startHalf => !left
  | finishHalf => !right

def Look.holds (condition : Look) (text : Array Char) (position : Nat) : Bool :=
  let left := before position
  match condition with
  | textStart => position == 0
  | textEnd => position == text.size
  | lineStart false => position == 0 || left (isChar text '\n')
  | lineEnd false => position == text.size || isChar text '\n' position
  | lineStart true =>
    position == 0 || left (isChar text '\n') ||
      (left (isChar text '\r') && !isChar text '\n' position)
  | lineEnd true =>
    position == text.size || isChar text '\r' position ||
      (isChar text '\n' position && !left (isChar text '\r'))
  | word wide boundary =>
    boundary.holds (left (isWordAt wide text)) (isWordAt wide text position)

structure Front where
  reached : Array Bool
  threads : List Thread

def Front.empty (program : Program) : Front := ⟨Array.replicate program.code.size false, []⟩

-- An instruction that was reached before is not followed again; each of the others adds two threads at most.
def follow (program : Program) (text : Array Char) (position : Nat) :
    Nat → List Thread → Front → Front
  | 0, _, front => front
  | _ + 1, [], front => front
  | turns + 1, thread :: waiting, front =>
    if front.reached.getD thread.label true then follow program text position turns waiting front
    else
      let front := { front with reached := front.reached.setIfInBounds thread.label true }
      match program.code[thread.label]? with
      | none | some .fail => follow program text position turns waiting front
      | some (.read _ _) | some .accept =>
        follow program text position turns waiting
          { front with threads := thread :: front.threads }
      | some (.look condition next) =>
        if condition.holds text position then
          follow program text position turns (⟨next, thread.slots⟩ :: waiting) front
        else follow program text position turns waiting front
      | some (.save slot next) =>
        let slots := thread.slots.setIfInBounds slot (some position)
        follow program text position turns (⟨next, slots⟩ :: waiting) front
      | some (.split first second) =>
        follow program text position turns
          (⟨first, thread.slots⟩ :: ⟨second, thread.slots⟩ :: waiting) front

def Front.add (front : Front) (program : Program) (text : Array Char) (position : Nat)
    (thread : Thread) : Front :=
  follow program text position (2 * program.code.size + 2) [thread] front

-- A thread that accepts cuts off those behind it.
def advance (program : Program) (text : Array Char) (position : Nat) (found : Option Slots) :
    List Thread → Front → Option Slots × Front
  | [], front => (found, front)
  | thread :: rest, front =>
    match program.code[thread.label]? with
    | some .accept => (some thread.slots, front)
    | some (.read chars next) =>
      let front :=
        match text[position]? with
        | some c =>
          if chars.contains c.toNat then
            front.add program text (position + 1) ⟨next, thread.slots⟩
          else front
        | none => front
      advance program text position found rest front
    | _ => advance program text position found rest front

-- Until a match is found, a new thread starts at each position.
def searchFrom (program : Program) (slots : Nat) (text : Array Char) :
    Nat → Nat → Front → Option Slots → Option Slots
  | 0, _, _, found => found
  | turns + 1, position, front, found =>
    let front :=
      match found with
      | none => front.add program text position ⟨program.start, Array.replicate slots none⟩
      | some _ => front
    if front.threads.isEmpty && found.isSome then found
    else
      let (found, front) :=
        advance program text position found front.threads.reverse (Front.empty program)
      searchFrom program slots text turns (position + 1) front found

def search? (program : Program) (groups : Nat) (text : Array Char) (start : Nat) : Option Slots :=
  searchFrom program (2 * groups + 2) text (text.size + 1 - start) start (Front.empty program) none

end TreePath.Regex
