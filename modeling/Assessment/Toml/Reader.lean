import Assessment.Toml.Scalar

/-!
# Reading TOML

A document is read line by line into tables.  `Toml.read?` gives the entries of the
outermost table, or nothing if the text is not TOML.
-/

namespace Assessment

namespace TomlText

def isSpace (c : Char) : Bool :=
  c == ' ' || c == '\t'

def skipSpaces (text : List Char) : List Char :=
  text.dropWhile isSpace

/-- What follows a comment, if one starts here and holds no control characters. -/
def skipComment? (text : List Char) : Option (List Char) :=
  match text with
  | '#' :: rest =>
      match rest.dropWhile isPlain with
      | '\r' :: '\n' :: rest => some ('\n' :: rest)
      | '\n' :: rest => some ('\n' :: rest)
      | [] => some []
      | _ => none
  | rest => some rest

/-- Skips blanks, comments and line breaks. -/
def skipLines? : Nat → List Char → Option (List Char)
  | 0, _ => none
  | fuel + 1, text => do
      match ← skipComment? (skipSpaces text) with
      | '\n' :: rest => skipLines? fuel rest
      | '\r' :: '\n' :: rest => skipLines? fuel rest
      | rest => return rest

/-! ## Keys -/

def isKeyCharacter (c : Char) : Bool :=
  c.isAlphanum || c == '-' || c == '_'

/-- One part of a key: a run of key characters or a quoted text of one line. -/
def keyPart? (text : List Char) : Option (String × List Char) :=
  match text with
  | '"' :: '"' :: '"' :: _ => none
  | '\'' :: '\'' :: '\'' :: _ => none
  | '"' :: _ => quoted? text
  | '\'' :: _ => quoted? text
  | _ =>
      let run := text.takeWhile isKeyCharacter
      if run.isEmpty then none else some (String.ofList run, text.drop run.length)

/-- Parts of a key with full stops between them, and the text behind the blanks after
it. -/
def key? : Nat → List Char → Option (List String × List Char)
  | 0, _ => none
  | fuel + 1, text => do
      let (part, rest) ← keyPart? (skipSpaces text)
      match skipSpaces rest with
      | '.' :: rest =>
          let (parts, rest) ← key? fuel rest
          return (part :: parts, rest)
      | rest => return ([part], rest)

/-! ## Values -/

/-- Arrays and tables nested deeper than this are refused. -/
def maximumDepth : Nat := 80

mutual

/-- A value.  The first number bounds the length of the text, the second one the
nesting. -/
def value? : Nat → Nat → List Char → Option (Toml × List Char)
  | 0, _, _ => none
  | fuel + 1, depth, text =>
      match text with
      | '"' :: _ => (quoted? text).map fun (found, rest) => (.text found, rest)
      | '\'' :: _ => (quoted? text).map fun (found, rest) => (.text found, rest)
      | '[' :: rest =>
          match depth with
          | 0 => none
          | depth + 1 => items? fuel depth [] rest
      | '\x7b' :: rest =>
          match depth with
          | 0 => none
          | depth + 1 =>
              match skipSpaces rest with
              | '\x7d' :: rest => some (.inlineTable [], rest)
              | rest => fields? fuel depth [] rest
      | _ =>
          let (run, rest) := bareRun text
          (bareValue? run).map (·, rest)

/-- The items of an array up to its closing bracket; a comma may stand before it. -/
def items? : Nat → Nat → List Toml → List Char → Option (Toml × List Char)
  | 0, _, _, _ => none
  | fuel + 1, depth, found, text => do
      match ← skipLines? (text.length + 1) text with
      | ']' :: rest => return (.array found.reverse, rest)
      | text =>
          let (item, rest) ← value? fuel depth text
          match ← skipLines? (rest.length + 1) rest with
          | ',' :: rest => items? fuel depth (item :: found) rest
          | ']' :: rest => return (.array (item :: found).reverse, rest)
          | _ => none

/-- The fields of an inline table up to its closing brace. -/
def fields? : Nat → Nat → Toml.Entries → List Char → Option (Toml × List Char)
  | 0, _, _, _ => none
  | fuel + 1, depth, found, text => do
      let (path, rest) ← key? (text.length + 1) text
      match rest with
      | '=' :: rest =>
          let (value, rest) ← value? fuel depth (skipSpaces rest)
          let found ← Toml.addDotted? value path found
          match skipSpaces rest with
          | ',' :: rest => fields? fuel depth found rest
          | '\x7d' :: rest => return (.inlineTable found, rest)
          | _ => none
      | _ => none

end

/-! ## Documents -/

/-- The tables read so far and the path of the one that lines go to. -/
structure State where
  root : Toml.Entries
  current : List String

/-- A header, an assignment, or nothing. -/
def statement? (state : State) (text : List Char) : Option (State × List Char) := do
  match text with
  | '[' :: '[' :: rest =>
      let (path, rest) ← key? (rest.length + 1) rest
      match rest with
      | ']' :: ']' :: rest =>
          let root ← Toml.addElement? path state.root
          return (⟨root, path⟩, rest)
      | _ => none
  | '[' :: rest =>
      let (path, rest) ← key? (rest.length + 1) rest
      match rest with
      | ']' :: rest =>
          let root ← Toml.addHeader? path state.root
          return (⟨root, path⟩, rest)
      | _ => none
  | _ =>
      let (path, rest) ← key? (text.length + 1) text
      match rest with
      | '=' :: rest =>
          let (value, rest) ← value? (rest.length + 1) maximumDepth (skipSpaces rest)
          let root ← Toml.underHeader? (Toml.addDotted? value path) state.current state.root
          return (⟨root, state.current⟩, rest)
      | _ => none

/-- Reads statements, each of which ends its line. -/
def statements? : Nat → State → List Char → Option State
  | 0, _, _ => none
  | fuel + 1, state, text => do
      match ← skipLines? (text.length + 1) text with
      | [] => return state
      | text =>
          let (state, rest) ← statement? state text
          match ← skipComment? (skipSpaces rest) with
          | [] => return state
          | '\n' :: rest => statements? fuel state rest
          | '\r' :: '\n' :: rest => statements? fuel state rest
          | _ => none

/-- The text without a mark of byte order at its start. -/
def skipMark : List Char → List Char
  | '\ufeff' :: rest => rest
  | rest => rest

end TomlText

/-- The entries of a document. -/
def Toml.read? (text : String) : Option Toml.Entries :=
  let text := TomlText.skipMark text.toList
  (TomlText.statements? (text.length + 1) ⟨[], []⟩ text).map (·.root)

end Assessment
