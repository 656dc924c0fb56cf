import Assessment.Json

/-!
# Writing JSON

Values are written either on one line without blanks, or one item on each line,
indented by two blanks for each level.
-/

namespace Assessment.Json

def hexDigit (n : Nat) : Char :=
  if n < 10 then Char.ofNat ('0'.toNat + n) else Char.ofNat ('a'.toNat + (n - 10))

/-- Quotes, backslashes and control characters are escaped, all else stays. -/
def escape (c : Char) : List Char :=
  match c with
  | '"' => ['\\', '"']
  | '\\' => ['\\', '\\']
  | '\n' => ['\\', 'n']
  | '\r' => ['\\', 'r']
  | '\t' => ['\\', 't']
  | c =>
      if c.toNat == 8 then ['\\', 'b']
      else if c.toNat == 12 then ['\\', 'f']
      else if c.toNat < 0x20 then
        ['\\', 'u', '0', '0', hexDigit (c.toNat / 16), hexDigit (c.toNat % 16)]
      else [c]

def quote (text : String) : String :=
  "\"" ++ String.ofList (text.toList.flatMap escape) ++ "\""

/-- A value without parts; a float that is not finite has no number in JSON. -/
def scalarText : Json → String
  | .null => "null"
  | .bool value => if value then "true" else "false"
  | .integer value => String.ofList (Integer.decimal value)
  | .float value => if value.isFinite then floatText value else "null"
  | .string value => quote value
  | .array _ => "[]"
  | .object _ => "\x7b\x7d"

mutual

/-- The value on one line. -/
def compact : Json → String
  | .array items => "[" ++ ",".intercalate (compactItems items) ++ "]"
  | .object fields => "\x7b" ++ ",".intercalate (compactFields fields) ++ "\x7d"
  | value => scalarText value

def compactItems : List Json → List String
  | [] => []
  | item :: items => compact item :: compactItems items

def compactFields : List (String × Json) → List String
  | [] => []
  | (key, value) :: fields => (quote key ++ ":" ++ compact value) :: compactFields fields

end

def indent (level : Nat) : String :=
  "\n" ++ String.ofList (List.replicate (2 * level) ' ')

mutual

/-- The value over several lines; `level` counts what is open around it. -/
def pretty (level : Nat) : Json → String
  | .array [] => "[]"
  | .array items =>
      "[" ++ indent (level + 1) ++
        ("," ++ indent (level + 1)).intercalate (prettyItems (level + 1) items) ++
        indent level ++ "]"
  | .object [] => "\x7b\x7d"
  | .object fields =>
      "\x7b" ++ indent (level + 1) ++
        ("," ++ indent (level + 1)).intercalate (prettyFields (level + 1) fields) ++
        indent level ++ "\x7d"
  | value => scalarText value

def prettyItems (level : Nat) : List Json → List String
  | [] => []
  | item :: items => pretty level item :: prettyItems level items

def prettyFields (level : Nat) : List (String × Json) → List String
  | [] => []
  | (key, value) :: fields =>
      (quote key ++ ": " ++ pretty level value) :: prettyFields level fields

end

end Assessment.Json
