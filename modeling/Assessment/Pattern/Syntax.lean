import Assessment.Pattern.Simplification
import Assessment.Text.CaseFolding

/-!
# The notation of patterns

The parts that pattern texts are made of, and what they mean under the modes in effect
where they stand.  Outside of Unicode mode only sets of ASCII characters can be
written, so negations and most classes mean nothing there.
-/

namespace Assessment

/-- The modes that flags switch on and off. -/
inductive Flag where
  | ignoreCase
  | multiLine
  | dotAll
  | swapGreed
  | unicode
  | crlf
  | verbose
  deriving DecidableEq, Repr

def Flag.ofLetter? : Char → Option Flag
  | 'i' => some .ignoreCase
  | 'm' => some .multiLine
  | 's' => some .dotAll
  | 'U' => some .swapGreed
  | 'u' => some .unicode
  | 'R' => some .crlf
  | 'x' => some .verbose
  | _ => none

/-- The modes that are on. -/
abbrev Modes := List Flag

namespace Modes

/-- The modes at the start of a pattern. -/
def initial : Modes := [.unicode]

def has (modes : Modes) (flag : Flag) : Bool :=
  modes.contains flag

/-- The modes after flags were switched. -/
def change (modes : Modes) (changes : List (Flag × Bool)) : Modes :=
  changes.foldl (fun modes (flag, on) =>
    let others := modes.filter (· != flag)
    if on then flag :: others else others) modes

end Modes

/-- A character that stands for itself.  Two hexadecimal digits write a byte, which
above 127 is a character only in Unicode mode. -/
structure Literal where
  character : Char
  isByte : Bool
  deriving DecidableEq, Repr

namespace Literal

def plain (c : Char) : Literal := ⟨c, false⟩

def isAscii (literal : Literal) : Bool :=
  literal.character.toNat < 128

end Literal

/-- The classes with an escape of one letter. -/
inductive Shorthand where
  | digit
  | blank
  | word
  deriving DecidableEq, Repr

namespace Shorthand

def set (unicode : Bool) : Shorthand → CharacterSet
  | .digit => if unicode then Alphabet.digits else Alphabet.asciiDigits
  | .blank => if unicode then Alphabet.blanks else Alphabet.asciiBlanks
  | .word => if unicode then Alphabet.words else Alphabet.asciiWords

end Shorthand

inductive SetOperation where
  | intersection
  | difference
  | symmetricDifference
  deriving DecidableEq, Repr

namespace SetOperation

def apply : SetOperation → CharacterSet → CharacterSet → CharacterSet
  | .intersection => .intersection
  | .difference => .difference
  | .symmetricDifference => .symmetricDifference

end SetOperation

/-- A class as it is written. -/
inductive ClassSyntax where
  | span (first last : Literal)
  | shorthand (kind : Shorthand) (negated : Bool)
  /-- A class of ASCII characters that has a name within brackets. -/
  | ascii (set : CharacterSet) (negated : Bool)
  | property (set : CharacterSet) (negated : Bool)
  | union (items : List ClassSyntax)
  | operation (kind : SetOperation) (left right : ClassSyntax)
  | bracket (negated : Bool) (content : ClassSyntax)
  deriving Repr

namespace ClassSyntax

/-- The set closed under change of case if case is ignored. -/
def closeCase (modes : Modes) (set : CharacterSet) : CharacterSet :=
  if !modes.has .ignoreCase then set
  else if modes.has .unicode then Text.closeCase set
  else Text.closeAsciiCase set

/-- The complement of a set, which is not a set of ASCII characters. -/
def negate? (modes : Modes) (negated : Bool) (set : CharacterSet) : Option CharacterSet :=
  if !negated then some set
  else if modes.has .unicode then some set.complement
  else none

mutual

/-- The set that a class means, if it means one. -/
def set? (modes : Modes) : ClassSyntax → Option CharacterSet
  | .span first last =>
      if modes.has .unicode || (first.isAscii && last.isAscii) then
        some (.range first.character last.character)
      else none
  | .shorthand kind negated => negate? modes negated (kind.set (modes.has .unicode))
  | .ascii set negated => negate? modes negated (closeCase modes set)
  | .property set negated =>
      if modes.has .unicode then negate? modes negated (closeCase modes set) else none
  | .union items => unionSet? modes items
  | .operation kind left right => do
      let left ← set? modes left
      let right ← set? modes right
      return kind.apply (closeCase modes left) (closeCase modes right)
  | .bracket negated content => do
      let set ← set? modes content
      negate? modes negated (closeCase modes set)

def unionSet? (modes : Modes) : List ClassSyntax → Option CharacterSet
  | [] => some .empty
  | item :: items => do
      let set ← set? modes item
      let rest ← unionSet? modes items
      return set.union rest

end

mutual

/-- How deep a class is nested. -/
def depth : ClassSyntax → Nat
  | .span .. => 0
  | .shorthand .. => 0
  | .ascii .. => 0
  | .property .. => 0
  | .union [] => 0
  | .union [item] => depth item
  | .union (item :: other :: items) =>
      1 + Nat.max (depth item) (Nat.max (depth other) (maxDepth items))
  | .operation _ left right => 1 + Nat.max (depth left) (depth right)
  | .bracket _ content => 1 + depth content

def maxDepth : List ClassSyntax → Nat
  | [] => 0
  | item :: items => Nat.max (depth item) (maxDepth items)

end

end ClassSyntax

/-- The smallest parts of a pattern. -/
inductive Primitive where
  | literal (literal : Literal)
  | dot
  | lineStart
  | lineEnd
  | textStart
  | textEnd
  | word (kind : WordAnchor)
  | set (written : ClassSyntax)
  deriving Repr

namespace Primitive

/-- The characters that end lines. -/
def lineBreaks (modes : Modes) : CharacterSet :=
  if modes.has .crlf then (CharacterSet.single '\n').union (.single '\r') else .single '\n'

def anchorIn (modes : Modes) (text line crlfLine : Anchor) : Anchor :=
  if !modes.has .multiLine then text
  else if modes.has .crlf then crlfLine
  else line

/-- One character of a set that was written under the given modes. -/
def ofSet (modes : Modes) (set : CharacterSet) : Pattern :=
  .ofSet set (modes.has .unicode)

/-- The pattern of a primitive, if it means one. -/
def pattern? (modes : Modes) : Primitive → Option Pattern
  | .literal written =>
      if written.isByte && !written.isAscii && !modes.has .unicode then none
      else some (ofSet modes (ClassSyntax.closeCase modes (.single written.character)))
  | .dot =>
      if !modes.has .unicode then none
      else if modes.has .dotAll then some (ofSet modes .all)
      else some (ofSet modes (lineBreaks modes).complement)
  | .lineStart => some (.anchor (anchorIn modes .textStart .lineStart .crlfLineStart))
  | .lineEnd => some (.anchor (anchorIn modes .textEnd .lineEnd .crlfLineEnd))
  | .textStart => some (.anchor .textStart)
  | .textEnd => some (.anchor .textEnd)
  | .word kind => some (.anchor (.word kind (modes.has .unicode)))
  | .set written => (written.set? modes).map (ofSet modes)

/-- Only bracketed classes are nested. -/
def depth : Primitive → Nat
  | .set written => written.depth
  | _ => 0

end Primitive

end Assessment
