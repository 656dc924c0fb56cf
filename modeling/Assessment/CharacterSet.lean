/-!
# Sets of characters

A set of characters is a list of closed ranges of code points in increasing order, which
do not overlap.  Sets that are made from ranges or joined have no ranges that touch each
other.  Surrogate code points are not characters: the character behind U+D7FF is U+E000.

Long sets are written down as gaps and widths.  The first number of each pair is the
distance from the end of the range before, the second is one less than the number of
code points in the range.
-/

namespace Assessment

/-- The code points from the first to the last. -/
structure CodeRange where
  first : Nat
  last : Nat
  deriving DecidableEq, Repr

structure CharacterSet where
  ranges : List CodeRange
  deriving DecidableEq, Repr

/-- The last of all code points. -/
def lastCode : Nat := 0x10FFFF

/-- The code point of the character behind another one. -/
def codeBehind (code : Nat) : Nat :=
  if code = 0xD7FF then 0xE000 else code + 1

/-- The code point of the character before another one. -/
def codeBefore (code : Nat) : Nat :=
  if code = 0xE000 then 0xD7FF else code - 1

namespace CodeRange

def contains (range : CodeRange) (code : Nat) : Bool :=
  range.first ≤ code && code ≤ range.last

/-- The range between two ends, whichever is the lower one. -/
def between (a b : Nat) : CodeRange :=
  ⟨Nat.min a b, Nat.max a b⟩

/-- What two ranges have in common. -/
def meet? (a b : CodeRange) : Option CodeRange :=
  let first := Nat.max a.first b.first
  let last := Nat.min a.last b.last
  if first ≤ last then some ⟨first, last⟩ else none

/-- What remains of a range without others, which come in increasing order. -/
def without (range : CodeRange) : List CodeRange → List CodeRange
  | [] => [range]
  | other :: rest =>
      if other.last < range.first then without range rest
      else if range.last < other.first then [range]
      else
        let before :=
          if range.first < other.first then [⟨range.first, codeBefore other.first⟩] else []
        let behind :=
          if other.last < range.last then without ⟨codeBehind other.last, range.last⟩ rest
          else []
        before ++ behind

end CodeRange

namespace CharacterSet

/-! ## Making sets -/

def empty : CharacterSet := ⟨[]⟩

/-- All characters. -/
def all : CharacterSet := ⟨[⟨0, lastCode⟩]⟩

def range (first last : Char) : CharacterSet :=
  ⟨[⟨first.toNat, last.toNat⟩]⟩

def single (c : Char) : CharacterSet :=
  range c c

/-- Joins ranges that touch.  They come in the order of their first code points, and
the current one before all others. -/
def coalesceFrom (current : CodeRange) : List CodeRange → List CodeRange
  | [] => [current]
  | next :: rest =>
      if next.first ≤ current.last + 1 then
        coalesceFrom ⟨current.first, Nat.max current.last next.last⟩ rest
      else current :: coalesceFrom next rest

/-- The set of ranges that come in the order of their first code points. -/
def ofSorted : List CodeRange → CharacterSet
  | [] => empty
  | range :: rest => ⟨coalesceFrom range rest⟩

def startsNoLater (a b : CodeRange) : Bool :=
  a.first ≤ b.first

/-- The set of some ranges in any order. -/
def ofRanges (ranges : List CodeRange) : CharacterSet :=
  ofSorted (ranges.mergeSort startsNoLater)

/-- The set of some code points in any order. -/
def ofCodes (codes : List Nat) : CharacterSet :=
  ofRanges (codes.map fun code => ⟨code, code⟩)

/-! ## Written sets -/

/-- The decimal numbers of a line, separated by single blanks. -/
def lineNumbers (line : String) : List Nat :=
  let step := fun (state : List Nat × Nat) (c : Char) =>
    if c == ' ' then (state.2 :: state.1, 0)
    else (state.1, state.2 * 10 + (c.toNat - '0'.toNat))
  let (earlier, last) := line.toList.foldl step ([], 0)
  (last :: earlier).reverse

/-- The decimal numbers of several lines. -/
def numbers (lines : List String) : List Nat :=
  lines.flatMap lineNumbers

/-- The ranges whose gaps and widths are listed; `last` is the end of the range
before. -/
def ofGapList (last : Nat) : List Nat → List CodeRange
  | gap :: width :: rest =>
      ⟨last + gap, last + gap + width⟩ :: ofGapList (last + gap + width) rest
  | _ => []

/-- The set written as gaps and widths. -/
def ofGaps (lines : List String) : CharacterSet :=
  ⟨ofGapList 0 (numbers lines)⟩

/-! ## Members -/

def containsCode (set : CharacterSet) (code : Nat) : Bool :=
  set.ranges.any (·.contains code)

def contains (set : CharacterSet) (c : Char) : Bool :=
  set.containsCode c.toNat

def isEmpty (set : CharacterSet) : Bool :=
  set.ranges.isEmpty

def isAscii (set : CharacterSet) : Bool :=
  set.ranges.all (·.last < 128)

/-- The member of a set that has only one. -/
def only? (set : CharacterSet) : Option Char :=
  match set.ranges with
  | [range] => if range.first = range.last then some (Char.ofNat range.first) else none
  | _ => none

/-! ## Algebra of sets -/

def union (a b : CharacterSet) : CharacterSet :=
  ofSorted (List.merge a.ranges b.ranges startsNoLater)

def unionAll (sets : List CharacterSet) : CharacterSet :=
  sets.foldl union empty

def intersection (a b : CharacterSet) : CharacterSet :=
  ⟨a.ranges.flatMap fun range => b.ranges.filterMap range.meet?⟩

def difference (a b : CharacterSet) : CharacterSet :=
  ⟨a.ranges.flatMap fun range => range.without b.ranges⟩

def symmetricDifference (a b : CharacterSet) : CharacterSet :=
  (a.union b).difference (a.intersection b)

/-- The ranges between and behind others, the one before which ends at `last`.  Where
only surrogates lie between two ranges, the range from the character before them to the
one behind them stands for the gap. -/
def gaps (last : Nat) : List CodeRange → List CodeRange
  | [] => if last < lastCode then [⟨codeBehind last, lastCode⟩] else []
  | range :: rest =>
      CodeRange.between (codeBehind last) (codeBefore range.first) :: gaps range.last rest

/-- The other characters. -/
def complement (set : CharacterSet) : CharacterSet :=
  match set.ranges with
  | [] => all
  | range :: rest =>
      let before := if 0 < range.first then [⟨0, codeBefore range.first⟩] else []
      ⟨before ++ gaps range.last rest⟩

end CharacterSet

end Assessment
