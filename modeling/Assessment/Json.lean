import Assessment.Dictionary
import Assessment.Number.Decimal

/-!
# JSON values

The documents, bindings and templates of the program are JSON.  Whole numbers stay
apart from floats, and the fields of an object are kept in increasing order of
their keys, so that everything read from an object is visited in that order.
-/

namespace Assessment

inductive Json where
  | null
  | bool (value : Bool)
  | integer (value : Int)
  | float (value : Float)
  | string (value : String)
  | array (items : List Json)
  | object (fields : List (String × Json))
  deriving Repr, Inhabited

namespace Json

/-- The object with the given fields, of which the last of each key counts. -/
def ofFields (fields : List (String × Json)) : Json :=
  .object (fields.foldl (fun sorted field => insertEntry field.1 field.2 sorted) [])

/-- The field of an object; other values have no fields. -/
def field? (json : Json) (key : String) : Option Json :=
  match json with
  | .object fields => lookupEntry key fields
  | _ => none

/-- A whole number of 64 bits. -/
def integer? : Json → Option Int64
  | .integer value => Integer.ofInt? value
  | _ => none

/-- Any number as a double. -/
def number? : Json → Option Float
  | .integer value => some (Float.ofInt value)
  | .float value => some value
  | _ => none

/-- The notation of a float inside of JSON. -/
def floatText (value : Float) : String :=
  Real64.write Layout.scientific "inf" "NaN" value

/-- The kind of a value with its article, as error messages name it. -/
def kindName : Json → String
  | .null => "null"
  | .bool _ => "a boolean"
  | .integer _ | .float _ => "a number"
  | .string _ => "a string"
  | .array _ => "an array"
  | .object _ => "an object"

theorem sizeOf_lookupEntry_lt {key : String} {fields : List (String × Json)} {value : Json}
    (found : lookupEntry key fields = some value) : sizeOf value < sizeOf fields := by
  induction fields with
  | nil => simp [lookupEntry] at found
  | cons field rest induction =>
      obtain ⟨other, old⟩ := field
      rw [lookupEntry] at found
      split at found
      next =>
        cases found
        simp
        omega
      next =>
        have smaller := induction found
        simp
        omega

/-- A field is smaller than the object it belongs to, so that a reader can descend
into it. -/
theorem sizeOf_field?_lt {json value : Json} {key : String}
    (found : json.field? key = some value) : sizeOf value < sizeOf json := by
  cases json with
  | object fields =>
      have smaller := sizeOf_lookupEntry_lt found
      simp
      omega
  | null => simp [field?] at found
  | bool => simp [field?] at found
  | integer => simp [field?] at found
  | float => simp [field?] at found
  | string => simp [field?] at found
  | array => simp [field?] at found

theorem sizeOf_items_lt {json : Json} {key : String} {items : List Json}
    (found : json.field? key = some (.array items)) : sizeOf items < sizeOf json := by
  have smaller := sizeOf_field?_lt found
  simp at smaller
  omega

end Json

end Assessment
