/-!
# Closed vocabularies

Many attributes of a document are words of a fixed list.  A vocabulary gives each of
its members one spelling, and reading accepts exactly these spellings.
-/

namespace Assessment

/-- A type whose members are written as fixed words. -/
class Vocabulary (α : Type) where
  /-- What the vocabulary is called in error messages. -/
  title : String
  all : List α
  word : α → String

namespace Vocabulary

/-- The member with a spelling. -/
def find? {α : Type} [Vocabulary α] (text : String) : Option α :=
  (all : List α).find? fun member => word member == text

def unknownMessage (α : Type) [Vocabulary α] (text : String) : String :=
  "unknown " ++ title α ++ " '" ++ text ++ "'"

/-- The member with a spelling, or the message that there is none. -/
def read (α : Type) [Vocabulary α] (text : String) : Except String α :=
  match (find? text : Option α) with
  | some member => .ok member
  | none => .error (unknownMessage α text)

end Vocabulary

end Assessment
