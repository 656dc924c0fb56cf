import Assessment.Text.Utf8

/-!
# Machines that read bytes

A pattern is looked for by machines, and is refused if one of them is too large.  Here a
machine is known by its size only: the number of its states, which are numbered as they
are added, and the bytes of the lists that some states hold.  There are two kinds of
lists: the steps that a state can take, and the states that a fork leads to.

States that differ in nothing are made once.  `SlotTable` remembers them, though not
all: every key has one slot, and displaces what the slot held before.
-/

namespace Assessment

structure Machine where
  states : Nat
  listed : Nat
  deriving DecidableEq, Repr

namespace Machine

/-- The bytes of a state without its list. -/
def stateSize : Nat := 32

/-- The bytes of a listed step. -/
def stepSize : Nat := 8

/-- The bytes of a listed state. -/
def linkSize : Nat := 4

def size (machine : Machine) : Nat :=
  stateSize * machine.states + machine.listed

/-- Machines of more bytes are refused: ten binary megabytes. -/
def maximumSize : Nat := 10 * 1024 * 1024

def empty : Machine := ⟨0, 0⟩

/-- The machine with further states and bytes of lists, if that is not too much. -/
def grow? (machine : Machine) (states listed : Nat) : Option Machine :=
  let grown : Machine := ⟨machine.states + states, machine.listed + listed⟩
  if grown.size ≤ maximumSize then some grown else none

end Machine

/-- Numbers of states under keys, a bounded number of them. -/
structure SlotTable (Key : Type) where
  slots : Array (Option (Key × Nat))

namespace SlotTable

variable {Key : Type}

def ofSize (size : Nat) : SlotTable Key :=
  ⟨Array.replicate size none⟩

/-- A number that depends on all of the given ones and on their order. -/
def fingerprint (values : List Nat) : UInt64 :=
  values.foldl (fun mixed value => (mixed ^^^ value.toUInt64) * 1099511628211)
    14695981039346656037

/-- The slot of a key that consists of the given numbers. -/
def slot (table : SlotTable Key) (values : List Nat) : Nat :=
  (fingerprint values).toNat % table.slots.size

/-- The state that a slot holds, if it is there for the given key. -/
def find? [BEq Key] (table : SlotTable Key) (slot : Nat) (key : Key) : Option Nat :=
  match table.slots[slot]? with
  | some (some (other, state)) => if other == key then some state else none
  | _ => none

def put (table : SlotTable Key) (slot : Nat) (key : Key) (state : Nat) : SlotTable Key :=
  ⟨table.slots.setIfInBounds slot (some (key, state))⟩

end SlotTable

end Assessment
