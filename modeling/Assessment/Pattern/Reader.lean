import Assessment.Pattern.Machine.Construction
import Assessment.Pattern.Token

/-!
# Reading patterns

Patterns are read token by token.  The state of the reader holds the modes in effect,
what the innermost open group has collected so far, and the groups around it.
`Pattern.read?` reads a pattern, and `Pattern.whole?` makes the pattern that has to
match a whole text.
-/

namespace Assessment

namespace PatternText

/-- A part of a sequence with the depth of its nesting.  Switches of flags are parts
that cannot be repeated. -/
structure Part where
  pattern : Pattern
  depth : Nat
  repeatable : Bool
  deriving Repr

namespace Part

def empty : Part := ⟨.empty, 0, true⟩

/-- Several parts made into one, a single one as it is.  Parts come in reverse. -/
def join (combine : List Pattern → Pattern) : List Part → Part
  | [] => empty
  | [part] => part
  | last :: earlier =>
      let depth := earlier.foldl (fun depth part => Nat.max depth part.depth) last.depth
      ⟨combine ((last :: earlier).reverse.map (·.pattern)), depth + 1, true⟩

end Part

/-- What a group has collected: finished alternatives and the parts of the current
one, the last one first.  When it ends, its match is remembered under its number if it
has one, and the modes from before it are in effect again. -/
structure Level where
  modes : Modes
  alternatives : List Part
  parts : List Part
  number : Option Nat
  deriving Repr

structure State where
  modes : Modes
  alternatives : List Part
  parts : List Part
  number : Option Nat
  outer : List Level
  names : List String
  numbered : Nat
  deriving Repr

namespace State

def initial : State := ⟨Modes.initial, [], [], none, [], [], 0⟩

/-- What the innermost group has collected, as one part. -/
def content (state : State) : Part :=
  let current := Part.join .joined state.parts
  match state.alternatives with
  | [] => current
  | alternatives => Part.join .chosen (current :: alternatives)

def push (state : State) (part : Part) : State :=
  { state with parts := part :: state.parts }

/-- The state within a group that begins here. -/
def enter (state : State) : GroupMark → Option State
  | .remembering name =>
      if name.any state.names.contains then none
      else
        some {
          modes := state.modes
          alternatives := []
          parts := []
          number := some (state.numbered + 1)
          outer := ⟨state.modes, state.alternatives, state.parts, state.number⟩ :: state.outer
          names := name.toList ++ state.names
          numbered := state.numbered + 1 }
  | .plain changes =>
      some { state with
        modes := state.modes.change changes
        alternatives := []
        parts := []
        number := none
        outer := ⟨state.modes, state.alternatives, state.parts, state.number⟩ :: state.outer }

/-- The state behind the group that ends here. -/
def leave (state : State) : Option State :=
  match state.outer with
  | level :: outer =>
      let content := state.content
      let pattern := match state.number with
        | some number => .group number content.pattern
        | none => content.pattern
      some { state with
        modes := level.modes
        alternatives := level.alternatives
        parts := ⟨pattern, content.depth + 1, true⟩ :: level.parts
        number := level.number
        outer }
  | [] => none

/-- The state with the last part repeated. -/
def repeatLast (state : State) (least : Nat) (most : Option Nat) (isLazy : Bool) :
    Option State :=
  match state.parts with
  | part :: earlier =>
      if part.repeatable then
        let greedy := isLazy == state.modes.has .swapGreed
        let pattern := part.pattern.repeated least most greedy
        some { state with parts := ⟨pattern, part.depth + 1, true⟩ :: earlier }
      else none
  | [] => none

/-- The state after a token. -/
def take (state : State) : Token → Option State
  | .primitive part =>
      (part.pattern? state.modes).map fun pattern => state.push ⟨pattern, part.depth, true⟩
  | .switch changes =>
      some { state.push ⟨.empty, 0, false⟩ with modes := state.modes.change changes }
  | .bar =>
      some { state with
        alternatives := Part.join .joined state.parts :: state.alternatives
        parts := [] }
  | .repetition least most isLazy => state.repeatLast least most isLazy
  | .openGroup mark => state.enter mark
  | .closeGroup => state.leave

def isVerbose (state : State) : Bool :=
  state.modes.has .verbose

end State

/-- Takes all tokens of a text. -/
def run : Nat → State → List Char → Option State
  | 0, _, _ => none
  | fuel + 1, state, text =>
      match skip state.isVerbose text with
      | [] => some state
      | text => do
          let (token, rest) ← token? state.isVerbose text
          let state ← state.take token
          run fuel state rest

/-- Patterns that are nested deeper are refused. -/
def maximumDepth : Nat := 250

end PatternText

namespace Pattern

open PatternText

/-- The pattern that a text denotes, if it is one and not too large. -/
def read? (text : List Char) : Option Pattern := do
  let state ← run (text.length + 1) State.initial text
  let content := state.content
  if state.outer.isEmpty && content.depth ≤ maximumDepth &&
      content.pattern.hasMachines then
    return content.pattern
  else none

/-- The text of a pattern put between anchors at both ends of the text that it is
matched with. -/
def anchored (text : List Char) : List Char :=
  ['^', '(', '?', ':'] ++ text ++ [')', '$']

/-- The pattern that has to match a whole text. -/
def whole? (text : List Char) : Option Pattern :=
  read? (anchored text)

end Pattern

end Assessment
