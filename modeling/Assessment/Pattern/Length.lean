import Assessment.Pattern
import Assessment.Text.Utf8

/-!
# Lengths and edges of matches

How many bytes a match of a pattern has at least and at most, as far as the shape of the
pattern tells, and whether every match lies at an edge of the text.
-/

namespace Assessment

/-- The two ways of reading a text. -/
inductive Direction where
  | forward
  | backward
  deriving DecidableEq, Repr

/-- The anchor at the edge of the text where reading begins. -/
def Direction.edge : Direction → Anchor
  | .forward => .textStart
  | .backward => .textEnd

namespace Pattern

mutual

/-- The least number of bytes of a match.  A pattern without matches may have none. -/
def leastLength? : Pattern → Option Nat
  | .empty => some 0
  | .literal written => some (Text.textByteLength written)
  | .one set _ => set.ranges.head?.map fun range => Text.byteLength range.first
  | .anchor _ => some 0
  | .group _ body => leastLength? body
  | .repetition body least _ _ => (leastLength? body).map (least * ·)
  | .sequence parts => leastOfAll? parts
  | .choice branches => leastOfAny? branches

def leastOfAll? : List Pattern → Option Nat
  | [] => some 0
  | part :: parts => do
      let length ← leastLength? part
      let rest ← leastOfAll? parts
      return length + rest

def leastOfAny? : List Pattern → Option Nat
  | [] => none
  | [branch] => leastLength? branch
  | branch :: branches => do
      let length ← leastLength? branch
      let rest ← leastOfAny? branches
      return Nat.min length rest

end

mutual

/-- The greatest number of bytes of a match, if there is one. -/
def mostLength? : Pattern → Option Nat
  | .empty => some 0
  | .literal written => some (Text.textByteLength written)
  | .one set _ => set.ranges.getLast?.map fun range => Text.byteLength range.last
  | .anchor _ => some 0
  | .group _ body => mostLength? body
  | .repetition body _ most _ => do
      let most ← most
      let length ← mostLength? body
      return most * length
  | .sequence parts => mostOfAll? parts
  | .choice branches => mostOfAny? branches

def mostOfAll? : List Pattern → Option Nat
  | [] => some 0
  | part :: parts => do
      let length ← mostLength? part
      let rest ← mostOfAll? parts
      return length + rest

def mostOfAny? : List Pattern → Option Nat
  | [] => none
  | [branch] => mostLength? branch
  | branch :: branches => do
      let length ← mostLength? branch
      let rest ← mostOfAny? branches
      return Nat.max length rest

end

/-- Whether all matches are empty. -/
def hasNoLength (pattern : Pattern) : Bool :=
  pattern.mostLength? == some 0

mutual

/-- Whether an anchor holds every match at the edge where reading begins. -/
def isAnchored (direction : Direction) : Pattern → Bool
  | .anchor condition => condition == direction.edge
  | .group _ body => isAnchored direction body
  | .repetition body least _ _ => 0 < least && isAnchored direction body
  | .sequence parts => anyAnchored direction parts
  | .choice branches => allAnchored direction branches
  | _ => false

/-- Whether a part of a sequence is anchored before any character is read. -/
def anyAnchored (direction : Direction) : List Pattern → Bool
  | [] => false
  | part :: parts =>
      match direction with
      | .forward =>
          isAnchored direction part || (part.hasNoLength && anyAnchored direction parts)
      | .backward =>
          anyAnchored direction parts ||
            (parts.all hasNoLength && isAnchored direction part)

def allAnchored (direction : Direction) : List Pattern → Bool
  | [] => true
  | branch :: branches => isAnchored direction branch && allAnchored direction branches

end

end Pattern

end Assessment
