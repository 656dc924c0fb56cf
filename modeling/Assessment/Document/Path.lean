/-!
# Paths into documents

A path leads from the root of a JSON value to one of its parts.  Errors carry the
path of the part they are about, and show it with dots before keys and brackets
around indices.
-/

namespace Assessment

inductive Path.Step where
  | key (name : String)
  | index (position : Nat)
  deriving DecidableEq, Repr

/-- The steps from the root. -/
abbrev Path := List Path.Step

namespace Path

def root : Path := []

/-- The field of the value at a path. -/
def child (path : Path) (name : String) : Path :=
  path ++ [.key name]

/-- The item of the array at a path. -/
def item (path : Path) (position : Nat) : Path :=
  path ++ [.index position]

/-- Adds a step to the text of the steps before.  A key is set off by a dot, unless
nothing stands before it. -/
def extend (text : String) : Step → String
  | .key name => if text.isEmpty then name else text ++ "." ++ name
  | .index position => s!"{text}[{position}]"

def render (path : Path) : String :=
  path.foldl extend ""

/-- The text of a path, with a word for the root. -/
def renderOrDocument (path : Path) : String :=
  let text := path.render
  if text.isEmpty then "document" else text

end Path

end Assessment
