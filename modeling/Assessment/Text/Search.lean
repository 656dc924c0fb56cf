/-!
# Occurrences of one text in another

Substring tests, and splitting at a delimiter that is a whole text.  Splitting
searches from the left and never lets two occurrences overlap, so that joining
the pieces with the delimiter gives the text back.
-/

namespace Assessment.Text

/-- Whether `needle` occurs somewhere in the text. -/
def occursIn (needle : List Char) : List Char → Bool
  | [] => needle.isEmpty
  | c :: rest => needle.isPrefixOf (c :: rest) || occursIn needle rest

/-- The pieces of a text between the occurrences of a delimiter, found from the
left without overlap.  An empty delimiter occurs nowhere. -/
def splitOn (delimiter : List Char) : List Char → List (List Char)
  | [] => [[]]
  | c :: rest =>
      if !delimiter.isEmpty && delimiter.isPrefixOf (c :: rest) then
        [] :: splitOn delimiter (rest.drop (delimiter.length - 1))
      else
        match splitOn delimiter rest with
        | [] => [[c]]
        | piece :: pieces => (c :: piece) :: pieces
  termination_by text => text.length

/-- The pieces in order with the delimiter between neighbours. -/
def join (delimiter : List Char) (pieces : List (List Char)) : List Char :=
  delimiter.intercalate pieces

end Assessment.Text
