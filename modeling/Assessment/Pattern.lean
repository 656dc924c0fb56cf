import Assessment.Pattern.Alphabet

/-!
# Patterns

A pattern describes a set of stretches of a text.  Matching keeps a whole set of
positions at a time, in increasing order: `Pattern.advance` takes the positions where
a stretch may begin to all those where it may end, so nothing is ever tried twice.
-/

namespace Assessment

/-- What an anchor between words asks of the characters around a position. -/
inductive WordAnchor where
  | boundary
  | noBoundary
  | start
  | finish
  | startHalf
  | finishHalf
  deriving DecidableEq, Repr

/-- A condition on a position of a text. -/
inductive Anchor where
  | textStart
  | textEnd
  | lineStart
  | lineEnd
  | crlfLineStart
  | crlfLineEnd
  | word (kind : WordAnchor) (unicode : Bool)
  deriving DecidableEq, Repr

namespace WordAnchor

/-- Given whether a word character stands before the position and behind it. -/
def holds (before behind : Bool) : WordAnchor → Bool
  | .boundary => before != behind
  | .noBoundary => before == behind
  | .start => !before && behind
  | .finish => before && !behind
  | .startHalf => !before
  | .finishHalf => !behind

end WordAnchor

namespace Anchor

/-- The character before a position. -/
def before? (text : Array Char) (position : Nat) : Option Char :=
  if position = 0 then none else text[position - 1]?

def holds (text : Array Char) (anchor : Anchor) (position : Nat) : Bool :=
  let before := before? text position
  let behind := text[position]?
  match anchor with
  | .textStart => before.isNone
  | .textEnd => behind.isNone
  | .lineStart => before.isNone || before == some '\n'
  | .lineEnd => behind.isNone || behind == some '\n'
  | .crlfLineStart =>
      before.isNone || before == some '\n' || (before == some '\r' && behind != some '\n')
  | .crlfLineEnd =>
      behind.isNone || behind == some '\r' || (behind == some '\n' && before != some '\r')
  | .word kind unicode =>
      let set := if unicode then Alphabet.words else Alphabet.asciiWords
      kind.holds (before.any set.contains) (behind.any set.contains)

end Anchor

inductive Pattern where
  | empty
  | literal (written : List Char)
  /-- One character of a set, which was written in Unicode mode or not. -/
  | one (set : CharacterSet) (unicode : Bool)
  | anchor (condition : Anchor)
  /-- A part whose match is remembered; groups are numbered in the order they begin. -/
  | group (index : Nat) (body : Pattern)
  | repetition (body : Pattern) (least : Nat) (most : Option Nat) (greedy : Bool)
  | sequence (parts : List Pattern)
  | choice (branches : List Pattern)
  deriving Repr

namespace Pattern

/-! ## Equality -/

mutual

/-- Whether two patterns are written alike. -/
def same : Pattern → Pattern → Bool
  | .empty, .empty => true
  | .literal a, .literal b => a == b
  | .one a unicodeA, .one b unicodeB => a == b && unicodeA == unicodeB
  | .anchor a, .anchor b => a == b
  | .group indexA a, .group indexB b => indexA == indexB && same a b
  | .repetition a leastA mostA greedyA, .repetition b leastB mostB greedyB =>
      leastA == leastB && mostA == mostB && greedyA == greedyB && same a b
  | .sequence a, .sequence b => sameAll a b
  | .choice a, .choice b => sameAll a b
  | _, _ => false

def sameAll : List Pattern → List Pattern → Bool
  | [], [] => true
  | a :: restA, b :: restB => same a b && sameAll restA restB
  | _, _ => false

end

/-! ## Matching -/

/-- Puts a position at its place among increasing positions. -/
def insertPosition (position : Nat) : List Nat → List Nat
  | [] => [position]
  | other :: rest =>
      if position < other then position :: other :: rest
      else if position = other then other :: rest
      else other :: insertPosition position rest

/-- The union of two sets of positions. -/
def unite (a b : List Nat) : List Nat :=
  b.foldr insertPosition a

/-- Takes a step again and again.  Once a step changes nothing, further ones do not
either. -/
def iterate (step : List Nat → List Nat) : Nat → List Nat → List Nat
  | 0, positions => positions
  | count + 1, positions =>
      let next := step positions
      if next == positions then positions else iterate step count next

/-- The positions reached from the frontier by at most the given number of steps, added
to those already seen. -/
def reach (step : List Nat → List Nat) : Nat → List Nat → List Nat → List Nat
  | 0, seen, _ => seen
  | rounds + 1, seen, frontier =>
      let fresh := (step frontier).filter fun position => !seen.contains position
      if fresh.isEmpty then seen else reach step rounds (unite seen fresh) fresh

/-- The positions behind one character of a set. -/
def behindOne (text : Array Char) (set : CharacterSet) (positions : List Nat) : List Nat :=
  (positions.filter fun position => text[position]?.any set.contains).map (· + 1)

/-- Whether a text has the given characters from a position on. -/
def standsAt (text : Array Char) : List Char → Nat → Bool
  | [], _ => true
  | c :: rest, position => text[position]? == some c && standsAt text rest (position + 1)

/-- The positions behind given characters. -/
def behindLiteral (text : Array Char) (written : List Char) (positions : List Nat) :
    List Nat :=
  (positions.filter (standsAt text written)).map (· + written.length)

mutual

/-- The positions where a match that begins at one of the given positions may end.  A
repetition without upper limit has reached all its ends after as many rounds as the
text has positions. -/
def advance (text : Array Char) : Pattern → List Nat → List Nat
  | .empty, starts => starts
  | .literal written, starts => behindLiteral text written starts
  | .one set _, starts => behindOne text set starts
  | .anchor condition, starts => starts.filter (condition.holds text)
  | .group _ body, starts => advance text body starts
  | .repetition body least most _, starts =>
      let step := fun positions => advance text body positions
      let required := iterate step least starts
      let rounds := match most with
        | some most => most - least
        | none => text.size + 1
      reach step rounds required required
  | .sequence parts, starts => advanceAll text parts starts
  | .choice branches, starts => advanceAny text branches starts

/-- The positions where a match of all parts, one behind the other, may end. -/
def advanceAll (text : Array Char) : List Pattern → List Nat → List Nat
  | [], starts => starts
  | part :: parts, starts => advanceAll text parts (advance text part starts)

/-- The positions where a match of one of the branches may end. -/
def advanceAny (text : Array Char) : List Pattern → List Nat → List Nat
  | [], _ => []
  | branch :: branches, starts =>
      unite (advance text branch starts) (advanceAny text branches starts)

end

/-- Whether the pattern matches some stretch of the text. -/
def occursIn (pattern : Pattern) (text : List Char) : Bool :=
  let text := text.toArray
  !(pattern.advance text (List.range (text.size + 1))).isEmpty

end Pattern

end Assessment
