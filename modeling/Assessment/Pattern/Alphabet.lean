import Assessment.Text.Trait

/-!
# Classes with a name of their own

The sets that patterns write by an escape of one letter, and the sets of ASCII
characters that have a name within brackets.
-/

namespace Assessment.Alphabet

/-- Decimal digits of every script. -/
def digits : CharacterSet :=
  Text.Category.decimalNumber

/-- White space. -/
def blanks : CharacterSet :=
  Text.Trait.whiteSpace

/-- Letters, marks, decimal digits, connecting punctuation and the characters that
control joining. -/
def words : CharacterSet :=
  .unionAll
    [Text.Trait.alphabetic, Text.Category.mark, Text.Category.decimalNumber,
      Text.Category.connectorPunctuation, Text.Trait.joinControl]

def asciiDigits : CharacterSet :=
  .range '0' '9'

def asciiBlanks : CharacterSet :=
  .ofSorted [⟨0x9, 0xD⟩, ⟨0x20, 0x20⟩]

def asciiWords : CharacterSet :=
  .ofSorted [⟨0x30, 0x39⟩, ⟨0x41, 0x5A⟩, ⟨0x5F, 0x5F⟩, ⟨0x61, 0x7A⟩]

/-- The ASCII classes with a name. -/
def ascii? (name : String) : Option CharacterSet :=
  match name with
  | "alnum" => some (.ofSorted [⟨0x30, 0x39⟩, ⟨0x41, 0x5A⟩, ⟨0x61, 0x7A⟩])
  | "alpha" => some (.ofSorted [⟨0x41, 0x5A⟩, ⟨0x61, 0x7A⟩])
  | "ascii" => some (.ofSorted [⟨0, 0x7F⟩])
  | "blank" => some (.ofSorted [⟨0x9, 0x9⟩, ⟨0x20, 0x20⟩])
  | "cntrl" => some (.ofSorted [⟨0, 0x1F⟩, ⟨0x7F, 0x7F⟩])
  | "digit" => some asciiDigits
  | "graph" => some (.ofSorted [⟨0x21, 0x7E⟩])
  | "lower" => some (.ofSorted [⟨0x61, 0x7A⟩])
  | "print" => some (.ofSorted [⟨0x20, 0x7E⟩])
  | "punct" =>
      some (.ofSorted [⟨0x21, 0x2F⟩, ⟨0x3A, 0x40⟩, ⟨0x5B, 0x60⟩, ⟨0x7B, 0x7E⟩])
  | "space" => some asciiBlanks
  | "upper" => some (.ofSorted [⟨0x41, 0x5A⟩])
  | "word" => some asciiWords
  | "xdigit" => some (.ofSorted [⟨0x30, 0x39⟩, ⟨0x41, 0x46⟩, ⟨0x61, 0x66⟩])
  | _ => none

end Assessment.Alphabet
