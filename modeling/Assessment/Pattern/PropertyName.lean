import Assessment.Text.Age
import Assessment.Text.Script
import Assessment.Text.Segmentation
import Assessment.Text.Trait

/-!
# Names of character properties

Patterns name sets of characters by Unicode's properties: a category, a script or a
yes-or-no property by itself, or a property with a value.  Names are compared without
regard to case, blanks, hyphens and underscores, and may begin with `is`.
-/

namespace Assessment.PropertyName

def lowerAscii (c : Char) : Char :=
  if 'A' ≤ c && c ≤ 'Z' then Char.ofNat (c.toNat + 32) else c

/-- The form in which names are compared. -/
def normalize (name : List Char) : String :=
  let lowered := name.map lowerAscii
  let (marked, rest) := match lowered with
    | 'i' :: 's' :: rest => (true, rest)
    | _ => (false, lowered)
  let kept := rest.filter fun c => c != ' ' && c != '_' && c != '-' && c.toNat < 128
  if marked && kept == ['c'] then "isc" else String.ofList kept

/-- A category, or one of three sets that are treated like categories. -/
def category? (name : String) : Option CharacterSet :=
  match name with
  | "any" => some .all
  | "ascii" => some ⟨[⟨0, 0x7F⟩]⟩
  | "assigned" => some Text.Category.unassigned.complement
  | _ => Text.category? name

/-- The set that a name alone stands for. -/
def named? (name : List Char) : Option CharacterSet :=
  let name := normalize name
  match Text.trait? name with
  | some set => some set
  | none =>
      match category? name with
      | some set => some set
      | none => Text.script? name

/-- The set of the characters that have a property with the given value. -/
def valued? (property value : List Char) : Option CharacterSet :=
  let value := normalize value
  match normalize property with
  | "gc" | "generalcategory" => category? value
  | "sc" | "script" => Text.script? value
  | "scx" | "scriptextensions" => Text.extendedScript? value
  | "age" => Text.age? value
  | "gcb" | "graphemeclusterbreak" => Text.graphemeBreak? value
  | "wb" | "wordbreak" => Text.wordBreak? value
  | "sb" | "sentencebreak" => Text.sentenceBreak? value
  | _ => none

/-- The text before and behind the first occurrence of a separator. -/
def cutAt? (separator : List Char) : List Char → Option (List Char × List Char)
  | [] => none
  | c :: rest =>
      if separator.isPrefixOf (c :: rest) then
        some ([], (c :: rest).drop separator.length)
      else (cutAt? separator rest).map fun (before, behind) => (c :: before, behind)

/-- The set that the text between the braces of a property stands for, and whether its
complement is meant. -/
def braced? (text : List Char) : Option (CharacterSet × Bool) :=
  match cutAt? ['!', '='] text with
  | some (property, value) => (valued? property value).map (·, true)
  | none =>
      match cutAt? [':'] text with
      | some (property, value) => (valued? property value).map (·, false)
      | none =>
          match cutAt? ['='] text with
          | some (property, value) => (valued? property value).map (·, false)
          | none => (named? text).map (·, false)

end Assessment.PropertyName
