import Assessment.Pattern.Length
import Assessment.Pattern.Machine

/-!
# States for a choice among literals

Literals form a tree of bytes, in which a byte leads to one branch for all literals that
go on with it.  An earlier literal takes precedence over a later one.  So where one
literal ends, what came before it and what comes behind it are kept apart.
-/

namespace Assessment.Machine

/-- The literals between those that are empty, in stretches: always one stretch more
than there are empty literals. -/
def stretches : List (List Nat) → List (List (List Nat))
  | [] => [[]]
  | [] :: literals => [] :: stretches literals
  | literal :: literals =>
      match stretches literals with
      | [] => [[literal]]
      | stretch :: further => (literal :: stretch) :: further

/-- Further ends at a place where nothing else has begun yet change nothing. -/
def dropRepeatedEnds : List (List (List Nat)) → List (List (List Nat))
  | [] :: [] :: further => dropRepeatedEnds ([] :: further)
  | found => found

/-- The literals by their first byte, without it. -/
def byFirstByte (literals : List (List Nat)) : List (List (List Nat)) :=
  let firsts := (literals.filterMap List.head?).eraseDups
  firsts.map fun first =>
    (literals.filter fun literal => literal.head? == some first).map List.tail

/-- The bytes of the list of a state with the given number of steps.  A single step is
not listed. -/
def stepsSize (count : Nat) : Nat :=
  if count ≤ 1 then 0 else stepSize * count

/-- The machine with the states for the place where the given literals, none of them
longer than the given length, are what may follow.  A place where nothing follows is the
end of all literals. -/
def addLiteralsWithin? : Nat → List (List Nat) → Machine → Option Machine
  | 0, _, machine => some machine
  | length + 1, literals, machine =>
      if literals.all (·.isEmpty) then some machine
      else do
        let found := dropRepeatedEnds (stretches literals)
        let addStretch := fun (machine : Machine) (stretch : List (List Nat)) => do
          let groups := byFirstByte stretch
          let machine ← groups.foldlM
            (fun machine group => addLiteralsWithin? length group machine) machine
          machine.grow? 1 (stepsSize groups.length)
        let begun := found.filter (!·.isEmpty)
        let machine ← begun.foldlM addStretch machine
        machine.grow? 1 (linkSize * (begun.length + (found.length - 1)))

/-- The machine with the states for a choice among literals. -/
def addLiterals? (direction : Direction) (literals : List (List Char)) (machine : Machine) :
    Option Machine := do
  let machine ← machine.grow? 1 0
  let written := literals.map fun literal =>
    match direction with
    | .forward => Text.bytes literal
    | .backward => (Text.bytes literal).reverse
  let longest := written.foldl (fun longest bytes => Nat.max longest bytes.length) 0
  addLiteralsWithin? (longest + 1) written machine

end Assessment.Machine
