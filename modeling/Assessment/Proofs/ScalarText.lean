import Assessment.Document.Value
import Assessment.Proofs.Double
import Assessment.Proofs.DurationText
import Assessment.Proofs.Words

/-!
# Scalars and their notation

Reading gives scalars in a form that writing keeps: identifiers without blanks, trimmed
URIs, and durations whose magnitude fits in 64 bits.  Such a scalar is read back from
its text and from its JSON, unless it is a file, of which only the size is written.
-/

namespace Assessment.Scalar

/-! ## Reading as an option -/

/-- The scalar that a text denotes, if it denotes one. -/
def read? (baseType : BaseType) (text : String) : Option Scalar :=
  let trimmed := Text.trim text.toList
  match baseType with
  | .boolean => (readBoolean? trimmed).map .boolean
  | .integer => (readInteger? trimmed).map .integer
  | .float => (readFloat? trimmed).map .float
  | .string => some (.string text)
  | .identifier => (readIdentifier? trimmed).map .identifier
  | .uri => some (.uri (String.ofList trimmed))
  | .intOrIdentifier => (readIntOrIdentifier? trimmed).map .intOrIdentifier
  | .point => (readPoint? trimmed).map .point
  | .pair => (readPair? trimmed).map fun (first, second) => .pair first second
  | .directedPair =>
      (readPair? trimmed).map fun (first, second) => .directedPair first second
  | .duration => (Duration.read? trimmed).map .duration
  | .file => some (.file text)

theorem read_eq_ok_iff {baseType : BaseType} {text : String} {scalar : Scalar} :
    read baseType text = .ok scalar ↔ read? baseType text = some scalar := by
  cases baseType with
  | string | uri | file => simp [read, read?]
  | boolean | integer | float | identifier | intOrIdentifier | point | pair
  | directedPair =>
      simp only [read, read?]
      split
      next found => simp [found]
      next missing => simp [missing]
  | duration =>
      simp only [read, read?]
      split
      next found => simp [found]
      next missing => simp [missing]

/-! ## Legible scalars -/

/-- The scalar has the form of one that was read. -/
def Legible : Scalar → Prop
  | .identifier name => isIdentifier name.toList = true
  | .uri text => Text.trim text.toList = text.toList
  | .intOrIdentifier (.identifier name) =>
      isIdentifier name.toList = true ∧ readInteger? name.toList = none
  | .pair first second | .directedPair first second =>
      isIdentifier first.toList = true ∧ isIdentifier second.toList = true
  | .duration length => Integer.least < length.micros.toInt
  | _ => True

variable {baseType : BaseType} {scalar : Scalar} {text : List Char}

theorem isIdentifier_of_readIdentifier? {name : String}
    (success : readIdentifier? text = some name) : isIdentifier name.toList = true := by
  unfold readIdentifier? at success
  split at success
  next identifier =>
    cases success
    rwa [String.toList_ofList]
  next => cases success

theorem isIdentifier_of_readPair? {pair : String × String}
    (success : readPair? text = some pair) :
    isIdentifier pair.1.toList = true ∧ isIdentifier pair.2.toList = true := by
  obtain ⟨words, _, rest⟩ := Option.bind_eq_some_iff.mp success
  obtain ⟨first, firstRead, rest⟩ := Option.bind_eq_some_iff.mp rest
  obtain ⟨second, secondRead, together⟩ := Option.bind_eq_some_iff.mp rest
  cases together
  exact ⟨isIdentifier_of_readIdentifier? firstRead, isIdentifier_of_readIdentifier? secondRead⟩

theorem legible_of_readIntOrIdentifier? {value : IntOrIdentifier}
    (success : readIntOrIdentifier? text = some value) : (intOrIdentifier value).Legible := by
  unfold readIntOrIdentifier? at success
  split at success
  next => cases success; trivial
  next notInteger =>
    obtain ⟨name, read, rfl⟩ := Option.map_eq_some_iff.mp success
    have identifier := isIdentifier_of_readIdentifier? read
    unfold readIdentifier? at read
    split at read
    next =>
      cases read
      exact ⟨identifier, by rwa [String.toList_ofList]⟩
    next => cases read

theorem legible_read {text : String} (success : read baseType text = .ok scalar) :
    scalar.Legible := by
  rw [read_eq_ok_iff] at success
  cases baseType with
  | boolean | integer | float | point =>
      obtain ⟨value, _, rfl⟩ := Option.map_eq_some_iff.mp success
      trivial
  | string | file =>
      cases success
      trivial
  | identifier =>
      obtain ⟨name, found, rfl⟩ := Option.map_eq_some_iff.mp success
      exact isIdentifier_of_readIdentifier? found
  | uri =>
      cases success
      simp only [Legible, String.toList_ofList, Text.trim_trim]
  | intOrIdentifier =>
      obtain ⟨value, found, rfl⟩ := Option.map_eq_some_iff.mp success
      exact legible_of_readIntOrIdentifier? found
  | pair | directedPair =>
      obtain ⟨names, found, rfl⟩ := Option.map_eq_some_iff.mp success
      exact isIdentifier_of_readPair? found
  | duration =>
      obtain ⟨length, found, rfl⟩ := Option.map_eq_some_iff.mp success
      exact Duration.least_lt_of_read? found

theorem legible_ofModel_read {path : Path} {text : String}
    (success : Reading.ofModel path (read baseType text) = .ok scalar) : scalar.Legible := by
  cases found : read baseType text with
  | error error => simp [found, Reading.ofModel] at success
  | ok value =>
      simp only [found, Reading.ofModel, Except.ok.injEq] at success
      exact success ▸ legible_read found

/-- Whatever JSON a scalar is read from, it is legible. -/
theorem legible_ofJson {path : Path} {json : Json}
    (success : ofJson baseType path json = .ok scalar) : scalar.Legible := by
  cases json with
  | string text => exact legible_ofModel_read success
  | bool value =>
      simp only [ofJson] at success
      split at success
      next => cases success; trivial
      next => cases success
  | integer value =>
      cases baseType <;> simp only [ofJson] at success <;>
        first
        | exact legible_ofModel_read success
        | (split at success <;> cases success; trivial)
  | float value =>
      cases baseType <;> simp only [ofJson] at success <;>
        first
        | exact legible_ofModel_read success
        | (split at success <;> cases success; trivial)
  | null | array items | object fields => cases success

/-! ## Reading what was written -/

theorem isWord_of_isIdentifier (identifier : isIdentifier text = true) : Text.IsWord text := by
  simpa [isIdentifier, Text.IsWord] using identifier

theorem trim_of_isIdentifier (identifier : isIdentifier text = true) : Text.trim text = text :=
  Text.trim_of_no_blank (isWord_of_isIdentifier identifier).2

theorem isWord_decimal (n : Int) : Text.IsWord (Integer.decimal n) :=
  ⟨Integer.decimal_ne_nil n, fun _ => Integer.isBlank_of_mem_decimal⟩

theorem readTwo?_pair {left right : List Char} (leftWord : Text.IsWord left)
    (rightWord : Text.IsWord right) :
    readTwo? (Text.trim (left ++ ' ' :: right)) = some (left, right) := by
  rw [Text.trim_pair leftWord rightWord, readTwo?, Text.words_pair leftWord rightWord]

/-- No plus sign is written, so the whole notation is read as an integer. -/
theorem readInteger?_decimal (i : Int64) : readInteger? (Integer.decimal i.toInt) = some i := by
  have noPlus : ∀ rest, Integer.decimal i.toInt = '+' :: rest → False := by
    intro rest written
    have first : '+' ∈ Integer.decimal i.toInt := by simp [written]
    rcases Integer.isDigit_or_minus_of_mem_decimal first with digit | minus
    · exact absurd digit (by decide)
    · exact absurd minus (by decide)
  rw [readInteger?]
  · exact Integer.read?_decimal i
  · exact noPlus

theorem readIdentifier?_toList {name : String} (identifier : isIdentifier name.toList = true) :
    readIdentifier? name.toList = some name := by
  rw [readIdentifier?, if_pos identifier, String.ofList_toList]

theorem readPair?_pair {first second : String} (firstName : isIdentifier first.toList = true)
    (secondName : isIdentifier second.toList = true) :
    readPair? (Text.trim (first ++ " " ++ second).toList) = some (first, second) := by
  have written : (first ++ " " ++ second).toList = first.toList ++ ' ' :: second.toList := by
    simp
  rw [written, readPair?, readTwo?_pair (isWord_of_isIdentifier firstName)
    (isWord_of_isIdentifier secondName)]
  simp [readIdentifier?_toList firstName, readIdentifier?_toList secondName]

theorem readPoint?_point (position : Point) :
    readPoint? (Text.trim (Integer.text position.x ++ " " ++ Integer.text position.y).toList) =
      some position := by
  have written : (Integer.text position.x ++ " " ++ Integer.text position.y).toList =
      Integer.decimal position.x.toInt ++ ' ' :: Integer.decimal position.y.toInt := by
    simp [Integer.text]
  rw [written, readPoint?, readTwo?_pair (isWord_decimal _) (isWord_decimal _)]
  simp [readInteger?_decimal]

/-- The text of a legible scalar is read as that scalar, unless it is a float or a file. -/
theorem read?_text {scalar : Scalar} (legible : scalar.Legible)
    (notFloat : scalar.baseType ≠ .float) (notFile : scalar.baseType ≠ .file) :
    read? scalar.baseType scalar.text = some scalar := by
  cases scalar with
  | boolean value => cases value <;> decide
  | integer value =>
      simp only [read?, text, baseType, Integer.text, String.toList_ofList,
        Text.trim_of_no_blank (isWord_decimal value.toInt).2, readInteger?_decimal,
        Option.map_some]
  | float value => exact absurd rfl notFloat
  | string text => rfl
  | identifier name =>
      simp only [read?, text, baseType, trim_of_isIdentifier legible,
        readIdentifier?_toList legible, Option.map_some]
  | uri text =>
      have trimmed : Text.trim text.toList = text.toList := legible
      simp only [read?, Scalar.text, baseType, trimmed, String.ofList_toList]
  | intOrIdentifier value =>
      cases value with
      | integer value =>
          simp only [read?, text, baseType, Integer.text, String.toList_ofList,
            Text.trim_of_no_blank (isWord_decimal value.toInt).2, readIntOrIdentifier?,
            readInteger?_decimal, Option.map_some]
      | identifier name =>
          obtain ⟨identifier, notInteger⟩ := legible
          simp only [read?, text, baseType, trim_of_isIdentifier identifier,
            readIntOrIdentifier?, notInteger, readIdentifier?_toList identifier,
            Option.map_some]
  | point position =>
      simp only [read?, text, baseType, readPoint?_point, Option.map_some]
  | pair first second =>
      obtain ⟨firstName, secondName⟩ := legible
      simp only [read?, text, baseType, readPair?_pair firstName secondName, Option.map_some]
  | directedPair source destination =>
      obtain ⟨sourceName, destinationName⟩ := legible
      simp only [read?, text, baseType, readPair?_pair sourceName destinationName,
        Option.map_some]
  | duration length =>
      have whole : Text.trim length.write = length.write :=
        Text.trim_of_no_blank fun _ => Duration.isBlank_of_mem_write
      simp only [read?, text, baseType, Duration.text, String.toList_ofList, whole,
        Duration.read?_write legible, Option.map_some]
  | file content => exact absurd rfl notFile

/-- Infinities and NaN are written by their names. -/
theorem read?_text_of_not_finite {x : Float} (notFinite : x.isFinite = false) :
    read? .float (Real64.text x) = some (.float x) := by
  rcases Real64.eq_special_of_not_finite notFinite with rfl | rfl | rfl <;> decide +kernel

theorem ofJson_string {text : String} (found : read? baseType text = some scalar)
    (path : Path) : ofJson baseType path (.string text) = .ok scalar := by
  have success : read baseType text = .ok scalar := read_eq_ok_iff.mpr found
  simp only [ofJson, success, Reading.ofModel]

/-- The JSON of a legible scalar is read as that scalar, unless it is a file. -/
theorem ofJson_toJson {scalar : Scalar} (legible : scalar.Legible)
    (notFile : scalar.baseType ≠ .file) (path : Path) :
    ofJson scalar.baseType path scalar.toJson = .ok scalar := by
  cases scalar with
  | boolean value => simp [ofJson, toJson, baseType]
  | integer value => simp [ofJson, toJson, baseType, Json.integer?, Integer.ofInt?_toInt]
  | float value =>
      by_cases finite : value.isFinite = true
      · simp [ofJson, toJson, baseType, finite, Json.number?]
      · have notFinite : value.isFinite = false := by simpa using finite
        simp only [toJson, notFinite]
        exact ofJson_string (read?_text_of_not_finite notFinite) path
  | file content => exact absurd rfl notFile
  -- all other scalars are written as their text
  | _ => exact ofJson_string (read?_text legible nofun notFile) path

end Assessment.Scalar
