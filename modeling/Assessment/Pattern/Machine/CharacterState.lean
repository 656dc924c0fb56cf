import Assessment.Pattern.Length
import Assessment.Pattern.Machine

/-!
# States for a set of characters

A machine reads a character byte by byte.  Reading forward, the byte sequences of a set
form a tree whose equal branches are shared.  Reading backward, every sequence is a
chain, and chains share their ends.
-/

namespace Assessment.Machine

/-- A step with a byte of a range to a state. -/
structure Step where
  bytes : Text.ByteRange
  target : Nat
  deriving DecidableEq, Repr

/-- A machine that is being extended, and the states made so far for this set. -/
structure Workshop (Key : Type) where
  machine : Machine
  made : SlotTable Key

namespace Workshop

variable {Key : Type}

/-- Adds a state for a key unless one is remembered.  The key consists of the given
numbers. -/
def stateFor? [BEq Key] (shop : Workshop Key) (key : Key) (values : List Nat)
    (listed : Nat) : Option (Nat × Workshop Key) :=
  let slot := shop.made.slot values
  match shop.made.find? slot key with
  | some state => some (state, shop)
  | none => do
      let state := shop.machine.states
      let machine ← shop.machine.grow? 1 listed
      return (state, ⟨machine, shop.made.put slot key state⟩)

end Workshop

/-! ## Reading forward -/

/-- The state that takes some steps. -/
def stepsState? (steps : List Step) (shop : Workshop (List Step)) :
    Option (Nat × Workshop (List Step)) :=
  let values := steps.flatMap fun step => [step.bytes.first, step.bytes.last, step.target]
  shop.stateFor? steps values (stepSize * steps.length)

def beginAlike (a b : List Text.ByteRange) : Bool :=
  a.head? == b.head?

/-- The state from which sequences lead to the target.  They come in order, and have at
most the given length.  Sequences that begin with the same bytes share that step. -/
def treeState? (target : Nat) : Nat → List (List Text.ByteRange) → Workshop (List Step) →
    Option (Nat × Workshop (List Step))
  | 0, _, shop => some (target, shop)
  | length + 1, sequences, shop =>
      if sequences.head? == some [] then some (target, shop)
      else do
        let addStep := fun (state : List Step × Workshop (List Step))
            (group : List (List Text.ByteRange)) =>
          match group with
          | (bytes :: _) :: _ => do
              let (next, shop) ← treeState? target length (group.map List.tail) state.2
              return (⟨bytes, next⟩ :: state.1, shop)
          | _ => some state
        let (steps, shop) ← (sequences.splitBy beginAlike).foldlM addStep ([], shop)
        stepsState? steps.reverse shop

/-- How many states of one set are remembered when reading forward. -/
def forwardSlots : Nat := 10000

def forwardSet? (sequences : List (List Text.ByteRange)) (machine : Machine) :
    Option Machine := do
  let target := machine.states
  let machine ← machine.grow? 1 0
  let (_, shop) ← treeState? target 4 sequences ⟨machine, .ofSize forwardSlots⟩
  return shop.machine

/-! ## Reading backward -/

/-- The state from which a sequence, read from its last byte on, leads to a state. -/
def chainState? (target : Nat) : List Text.ByteRange → Workshop Step →
    Option (Nat × Workshop Step)
  | [], shop => some (target, shop)
  | bytes :: rest, shop => do
      let (state, shop) ← shop.stateFor? ⟨bytes, target⟩ [target, bytes.first, bytes.last] 0
      chainState? state rest shop

/-- How many states of one set are remembered when reading backward. -/
def backwardSlots : Nat := 1000

def backwardSet? (sequences : List (List Text.ByteRange)) (machine : Machine) :
    Option Machine := do
  let target := machine.states + 1
  let machine ← machine.grow? 2 0
  let addChain := fun (shop : Workshop Step) (sequence : List Text.ByteRange) => do
    let (_, shop) ← chainState? target sequence shop
    let machine ← shop.machine.grow? 0 linkSize
    return { shop with machine }
  let shop ← sequences.foldlM addChain ⟨machine, .ofSize backwardSlots⟩
  return shop.machine

/-! ## Both ways -/

/-- The machine with states that read a character of a set.  Of ASCII characters one
state lists all ranges. -/
def addSet? (direction : Direction) (set : CharacterSet) (machine : Machine) :
    Option Machine :=
  if set.isAscii then machine.grow? 2 (stepSize * set.ranges.length)
  else
    let sequences := set.ranges.flatMap Text.byteSequences
    match direction with
    | .forward => forwardSet? sequences machine
    | .backward => backwardSet? sequences machine

end Assessment.Machine
