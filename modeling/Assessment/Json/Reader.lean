import Assessment.Json.Token

/-!
# Reading JSON

The reader goes through the tokens once, with the arrays and objects that are still
open on a stack.  Its depth can be limited, since documents come from outside.
-/

namespace Assessment.Json

/-- An array or object around the place where the reader stands; items and fields
already read are kept with the last one first. -/
inductive Frame where
  | items (earlier : List Json)
  | member (earlier : List (String × Json)) (key : String)

/-- What may come next. -/
inductive Place where
  | value
  | firstItem
  | firstKey
  | key (earlier : List (String × Json))
  | colon (earlier : List (String × Json)) (key : String)
  | afterItem (items : List Json)
  | afterMember (fields : List (String × Json))
  | finished (value : Json)

structure ReaderState where
  stack : List Frame
  place : Place

namespace ReaderState

/-- A whole value has been read. -/
def complete (value : Json) : List Frame → ReaderState
  | [] => ⟨[], .finished value⟩
  | .items earlier :: stack => ⟨stack, .afterItem (value :: earlier)⟩
  | .member earlier key :: stack => ⟨stack, .afterMember ((key, value) :: earlier)⟩

/-- Arrays and objects may nest as deep as the limit says. -/
def mayOpen (limit : Option Nat) (opened : Nat) : Bool :=
  match limit with
  | none => true
  | some limit => opened < limit

/-- A value begins.  A new array or object has no frame of its own before its first
item or field. -/
def beginValue (limit : Option Nat) (stack : List Frame) : Token → Option ReaderState
  | .literal value => some (complete value stack)
  | .beginArray => if mayOpen limit stack.length then some ⟨stack, .firstItem⟩ else none
  | .beginObject => if mayOpen limit stack.length then some ⟨stack, .firstKey⟩ else none
  | _ => none

def step (limit : Option Nat) (state : ReaderState) (token : Token) : Option ReaderState :=
  match state.place, token with
  | .value, token => beginValue limit state.stack token
  | .firstItem, .endArray => some (complete (.array []) state.stack)
  | .firstItem, token => beginValue limit (.items [] :: state.stack) token
  | .firstKey, .endObject => some (complete (.object []) state.stack)
  | .firstKey, .literal (.string key) => some ⟨state.stack, .colon [] key⟩
  | .key earlier, .literal (.string key) => some ⟨state.stack, .colon earlier key⟩
  | .colon earlier key, .colon => some ⟨.member earlier key :: state.stack, .value⟩
  | .afterItem items, .comma => some ⟨.items items :: state.stack, .value⟩
  | .afterItem items, .endArray => some (complete (.array items.reverse) state.stack)
  | .afterMember fields, .comma => some ⟨state.stack, .key fields⟩
  | .afterMember fields, .endObject =>
      some (complete (Json.ofFields fields.reverse) state.stack)
  | _, _ => none

end ReaderState

/-- How deep arrays and objects of documents and other files may nest. -/
def documentDepth : Nat := 127

/-- The value that a text denotes; `none` if the text is not JSON or nests deeper
than the limit. -/
def read? (limit : Option Nat) (text : String) : Option Json := do
  let tokens ← Token.ofText? text.toList
  let final ← tokens.foldlM (ReaderState.step limit) ⟨[], .value⟩
  match final.place with
  | .finished value => some value
  | _ => none

end Assessment.Json
