/-!
# Blank characters

Literals, attributes and lists in markup may be surrounded by white space, and
pairs and points are separated by it.  White space means every character of
Unicode's `White_Space` property, not only the ASCII blanks.  All functions
work on lists of characters, so that they can be reasoned about by recursion.
-/

namespace Assessment.Text

/-- The characters of Unicode's `White_Space` property. -/
def isBlank (c : Char) : Bool :=
  let n := c.toNat
  (0x9 ≤ n && n ≤ 0xD) || n == 0x20 || n == 0x85 || n == 0xA0 || n == 0x1680 ||
    (0x2000 ≤ n && n ≤ 0x200A) || n == 0x2028 || n == 0x2029 || n == 0x202F ||
    n == 0x205F || n == 0x3000

/-- The text without the blanks at its start. -/
def trimStart (text : List Char) : List Char :=
  text.dropWhile isBlank

/-- The text without the blanks at its end. -/
def trimEnd (text : List Char) : List Char :=
  (text.reverse.dropWhile isBlank).reverse

/-- The text without the blanks around it. -/
def trim (text : List Char) : List Char :=
  trimEnd (trimStart text)

/-- The pieces between separating characters: always one more than there are
separators, and empty where two separators meet. -/
def split (separates : Char → Bool) : List Char → List (List Char)
  | [] => [[]]
  | c :: rest =>
      if separates c then
        [] :: split separates rest
      else
        match split separates rest with
        | [] => [[c]]
        | piece :: pieces => (c :: piece) :: pieces

/-- The maximal runs of characters that are not blank. -/
def words (text : List Char) : List (List Char) :=
  (split isBlank text).filter (fun piece => !piece.isEmpty)

end Assessment.Text
