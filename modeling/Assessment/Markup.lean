import Assessment.Text.Blank

/-!
# Attributes in markup

Custom operators may read attributes of their own from the markup of their element.
The markup is not parsed: an attribute is found by its name, an equals sign and a
quoted value.
-/

namespace Assessment.Markup

def isQuote (c : Char) : Bool :=
  c == '"' || c == '\''

/-- The value of an attribute that begins right at the start of the text.  Any of the
two quotes ends it. -/
def valueAtStart? (name text : List Char) : Option (List Char) :=
  if name.isPrefixOf text then
    match Text.trimStart (text.drop name.length) with
    | '=' :: rest =>
        match Text.trimStart rest with
        | quote :: rest =>
            let value := rest.takeWhile fun c => !isQuote c
            if isQuote quote && value.length < rest.length then some value else none
        | [] => none
    | _ => none
  else none

/-- The value of the first attribute of a name.  The name counts only at the start of
the text, which the flag tells, or behind a blank. -/
def findValue? (name : List Char) : (atStart : Bool) → List Char → Option (List Char)
  | _, [] => none
  | atStart, c :: rest =>
      let here? := if atStart then valueAtStart? name (c :: rest) else none
      match here? with
      | some value => some value
      | none => findValue? name (Text.isBlank c) rest

def attribute? (name markup : String) : Option String :=
  (findValue? name.toList true markup.toList).map String.ofList

end Assessment.Markup
