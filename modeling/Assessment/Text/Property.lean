import Assessment.CharacterSet

/-!
# Properties of characters

Unicode describes characters by properties.  A property or a value of one is known here
as the set of the characters that have it, under all names that the set goes by.  Names
are given in lower case and without blanks, hyphens and underscores.
-/

namespace Assessment.Text

/-- A set of characters with its names. -/
structure NamedSet where
  names : List String
  set : CharacterSet
  deriving Repr

namespace NamedSet

/-- The set that a list has under a name. -/
def find? (name : String) (sets : List NamedSet) : Option CharacterSet :=
  (sets.find? fun entry => entry.names.contains name).map (·.set)

end NamedSet

end Assessment.Text
