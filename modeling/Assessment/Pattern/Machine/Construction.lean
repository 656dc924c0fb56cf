import Assessment.Pattern.Machine.CharacterState
import Assessment.Pattern.Machine.LiteralState

/-!
# The machines of a pattern

Puts together the machine of a pattern out of those of its parts.  Every part ends in
one state, from which a link leads to what follows.  Links from forks are listed, all
others are not.  `Pattern.hasMachines` tells whether the machine that reads forward and
the one that reads backward both have an acceptable size.
-/

namespace Assessment

namespace Machine

/-- The state that a part of a machine ends in. -/
inductive Exit where
  | plain
  | fork
  deriving DecidableEq, Repr

/-- The bytes of a link that starts at the exit of a part. -/
def Exit.linkSize : Exit → Nat
  | .plain => 0
  | .fork => Machine.linkSize

/-- The machine with a part added, and the exit of that part. -/
abbrev Extension := Machine → Option (Machine × Exit)

/-- So many copies of a part, each linked to the one before.  The exit is that of what
stands before. -/
def addCopies? (part : Extension) : Nat → Machine → Exit → Option (Machine × Exit)
  | 0, machine, exit => some (machine, exit)
  | count + 1, machine, exit =>
      match machine.grow? 0 exit.linkSize with
      | none => none
      | some machine =>
          match part machine with
          | none => none
          | some (machine, exit) => addCopies? part count machine exit

/-- Exactly so many copies of a part; none at all is one state. -/
def addExactly? (part : Extension) : Nat → Extension
  | 0, machine => (machine.grow? 1 0).map (·, .plain)
  | count + 1, machine => do
      let (machine, exit) ← part machine
      addCopies? part count machine exit

/-- So many parts that may be left out.  Each begins at a fork that leads into the part
and past all that follow. -/
def addOptional? (part : Extension) : Nat → Machine → Exit → Option (Machine × Exit)
  | 0, machine, exit => some (machine, exit)
  | count + 1, machine, exit =>
      match machine.grow? 1 0 with
      | none => none
      | some machine =>
          match part machine with
          | none => none
          | some (machine, next) =>
              match machine.grow? 0 (exit.linkSize + 2 * linkSize) with
              | none => none
              | some machine => addOptional? part count machine next

/-- From `least` to `most` copies of a part. -/
def addBetween? (part : Extension) (least most : Nat) (machine : Machine) :
    Option (Machine × Exit) :=
  if least = 0 && most = 1 then do
    let machine ← machine.grow? 1 0
    let (machine, exit) ← part machine
    let machine ← machine.grow? 1 (2 * linkSize + exit.linkSize)
    return (machine, .plain)
  else do
    let (machine, exit) ← addExactly? part least machine
    if least = most then return (machine, exit)
    else
      let machine ← machine.grow? 1 0
      let (machine, exit) ← addOptional? part (most - least) machine exit
      let machine ← machine.grow? 0 exit.linkSize
      return (machine, .plain)

/-- At least so many copies of a part.  A part that may be empty and need not occur is
followed by a fork of its own, so that it is not passed by before it was tried. -/
def addAtLeast? (part : Extension) (mayBeEmpty : Bool) (least : Nat) (machine : Machine) :
    Option (Machine × Exit) :=
  match least with
  | 0 =>
      if mayBeEmpty then do
        let (machine, exit) ← part machine
        let machine ← machine.grow? 3 (exit.linkSize + 4 * linkSize)
        return (machine, .plain)
      else do
        let machine ← machine.grow? 1 0
        let (machine, exit) ← part machine
        let machine ← machine.grow? 0 (linkSize + exit.linkSize)
        return (machine, .fork)
  | count + 1 => do
      let (machine, exit) ← addExactly? part (count + 1) machine
      let machine ← machine.grow? 1 (exit.linkSize + linkSize)
      return (machine, .fork)

end Machine

namespace Pattern

open Machine

def literal? : Pattern → Option (List Char)
  | .literal written => some written
  | _ => none

mutual

/-- The machine with the states for a pattern. -/
def addTo? (direction : Direction) : Pattern → Machine → Option (Machine × Exit)
  | .empty, machine => (machine.grow? 1 0).map (·, .plain)
  | .literal written, machine =>
      (machine.grow? (Text.textByteLength written) 0).map (·, .plain)
  | .one set _, machine => (addSet? direction set machine).map (·, .plain)
  | .anchor _, machine => (machine.grow? 1 0).map (·, .plain)
  | .group _ body, machine =>
      match direction with
      | .backward => addTo? direction body machine
      | .forward => do
          let machine ← machine.grow? 1 0
          let (machine, exit) ← addTo? direction body machine
          let machine ← machine.grow? 1 exit.linkSize
          return (machine, .plain)
  | .repetition body least most _, machine =>
      let part := fun machine => addTo? direction body machine
      match most with
      | some most => addBetween? part least most machine
      | none => addAtLeast? part (!(body.leastLength?.any (0 < ·))) least machine
  | .sequence parts, machine => addAllTo? direction parts machine
  | .choice branches, machine =>
      match branches.mapM literal? with
      | some literals => (addLiterals? direction literals machine).map (·, .plain)
      | none => (addBranchesTo? direction 0 branches machine).map (·, .plain)

/-- The machine with the states for parts one behind the other, which are added in the
order in which they are read. -/
def addAllTo? (direction : Direction) : List Pattern → Machine → Option (Machine × Exit)
  | [], machine => (machine.grow? 1 0).map (·, .plain)
  | [part], machine => addTo? direction part machine
  | part :: next :: parts, machine =>
      match direction with
      | .forward =>
          match addTo? direction part machine with
          | none => none
          | some (machine, exit) =>
              match machine.grow? 0 exit.linkSize with
              | none => none
              | some machine => addAllTo? direction (next :: parts) machine
      | .backward =>
          match addAllTo? direction (next :: parts) machine with
          | none => none
          | some (machine, exit) =>
              match machine.grow? 0 exit.linkSize with
              | none => none
              | some machine => addTo? direction part machine

/-- The machine with the states for the branches of a choice; `index` is the number of
those that were added before.  The fork and the common end are added behind the second
branch. -/
def addBranchesTo? (direction : Direction) : Nat → List Pattern → Machine → Option Machine
  | _, [], machine => some machine
  | index, branch :: branches, machine =>
      match addTo? direction branch machine with
      | none => none
      | some (machine, exit) =>
          let shared := if index = 1 then 2 else 0
          match machine.grow? shared (linkSize + exit.linkSize) with
          | none => none
          | some machine => addBranchesTo? direction (index + 1) branches machine

end

/-- The states that try a pattern at every position of a text, unless an anchor holds it
at the edge where reading begins. -/
def addStart? (direction : Direction) (pattern : Pattern) (machine : Machine) :
    Option Machine :=
  if pattern.isAnchored direction then machine.grow? 1 0
  else machine.grow? 3 (stepSize + 2 * linkSize)

/-- The machine that looks for a pattern.  Reading forward, it also remembers the match
as a whole. -/
def machine? (direction : Direction) (pattern : Pattern) : Option Machine := do
  let machine ← pattern.addStart? direction Machine.empty
  let (machine, exit) ← Pattern.addTo? direction (.group 0 pattern) machine
  machine.grow? 1 exit.linkSize

/-- Whether the machines of a pattern have an acceptable size. -/
def hasMachines (pattern : Pattern) : Bool :=
  (pattern.machine? .forward).isSome && (pattern.machine? .backward).isSome

end Pattern

end Assessment
