import Assessment.Proofs.ScalarText
import Assessment.Proofs.TypedReading

/-!
# Values survive being written

The JSON of a value that was read gives the same value when it is read again as the same
type: the scalars of containers in their order, the fields of records under their names.
Only files are excepted, because their content is not written.
-/

namespace Assessment

/-! ## Sorted entries -/

theorem insertEntry_of_above {α : Type} {key : String} {value : α}
    {entries : List (String × α)} (above : ∀ entry ∈ entries, entry.1 < key) :
    insertEntry key value entries = entries ++ [(key, value)] := by
  induction entries with
  | nil => rfl
  | cons head rest induction =>
      obtain ⟨other, old⟩ := head
      have before : other < key := above (other, old) List.mem_cons_self
      have notAfter : ¬key < other := fun after => String.lt_irrefl _ (String.lt_trans after before)
      have different : key ≠ other := fun same => String.lt_irrefl _ (same ▸ before)
      have later := induction fun entry member => above entry (List.mem_cons_of_mem _ member)
      simp [insertEntry, notAfter, different, later]

theorem Dictionary.eq_of_entries_eq {α : Type} {a b : Dictionary α}
    (same : a.entries = b.entries) : a = b := by
  obtain ⟨aEntries, _⟩ := a
  obtain ⟨bEntries, _⟩ := b
  cases same
  rfl

/-! ## Items and fields -/

theorem Scalar.toJson_ne_null (scalar : Scalar) : scalar.toJson ≠ .null := by
  intro null
  cases scalar with
  | float value =>
      simp only [toJson] at null
      split at null <;> cases null
  | boolean | integer | string | identifier | uri | intOrIdentifier | point | pair
  | directedPair | duration | file => cases null

theorem BaseType.read_name (baseType : BaseType) :
    Vocabulary.read BaseType baseType.name = .ok baseType := by
  cases baseType <;> decide +kernel

/-- Scalars that are read back one by one are read back as the items of an array. -/
theorem Json.readItems_toJson {baseType : BaseType} {scalars : List Scalar}
    (back : ∀ scalar ∈ scalars, ∀ path, Scalar.ofJson baseType path scalar.toJson = .ok scalar)
    (path : Path) (position : Nat) :
    readItems (Scalar.ofJson baseType) path position (scalars.map Scalar.toJson) =
      .ok scalars := by
  induction scalars generalizing position with
  | nil => rfl
  | cons scalar scalars induction =>
      have first := back scalar List.mem_cons_self (path.item position)
      have others := induction (fun other member => back other (List.mem_cons_of_mem _ member))
        (position + 1)
      simp only [List.map_cons, readItems, first, others]
      rfl

namespace Record

/-- The JSON of one field. -/
def fieldToJson (entry : String × Scalar) : String × Json :=
  (entry.1, .object [("baseType", .string entry.2.baseType.name), ("value", entry.2.toJson)])

theorem addFields_cons {entry : String × Scalar} {path : Path} {record : Record}
    {rest : List (String × Json)}
    (back : ∀ inner, Scalar.ofJson entry.2.baseType inner entry.2.toJson = .ok entry.2) :
    addFields path record (fieldToJson entry :: rest) =
      addFields path (record.insert entry.1 entry.2) rest := by
  obtain ⟨name, scalar⟩ := entry
  have typed : Json.requireWord BaseType (path.child name) (fieldToJson (name, scalar)).2
      "baseType" = .ok scalar.baseType := by
    simp [Json.requireWord, Json.wordOr, fieldToJson, Json.field?, lookupEntry,
      BaseType.read_name]
  have written : (fieldToJson (name, scalar)).2.field? "value" = some scalar.toJson := by
    simp [fieldToJson, Json.field?, lookupEntry]
  show addFields path record ((name, (fieldToJson (name, scalar)).2) :: rest) = _
  rw [addFields]
  dsimp only
  rw [typed]
  dsimp only [bind, Except.bind]
  split
  next absent =>
    rw [written] at absent
    cases absent
  next null =>
    rw [written] at null
    exact absurd (Option.some.inj null) scalar.toJson_ne_null
  next raw _ found =>
    rw [written] at found
    obtain rfl : scalar.toJson = raw := Option.some.inj found
    rw [back]

/-- Fields in increasing order of their names are read into the record they come from. -/
theorem addFields_toJson {record whole : Record} {rest : List (String × Scalar)}
    (together : whole.entries = record.entries ++ rest)
    (back : ∀ entry ∈ rest, ∀ inner,
      Scalar.ofJson entry.2.baseType inner entry.2.toJson = .ok entry.2) (path : Path) :
    addFields path record (rest.map fieldToJson) = .ok whole := by
  induction rest generalizing record with
  | nil =>
      have same : record = whole :=
        Dictionary.eq_of_entries_eq (by rw [together, List.append_nil])
      rw [List.map_nil, addFields, same]
  | cons entry rest induction =>
      have increase := whole.increase
      rw [together] at increase
      have above : ∀ other ∈ record.entries, other.1 < entry.1 := fun other member =>
        (List.pairwise_append.mp increase).2.2 other member entry List.mem_cons_self
      have inserted : (record.insert entry.1 entry.2).entries = record.entries ++ [entry] :=
        insertEntry_of_above above
      rw [List.map_cons, addFields_cons (back entry List.mem_cons_self)]
      refine induction ?_ fun other member => back other (List.mem_cons_of_mem _ member)
      rw [inserted, together, List.append_assoc, List.singleton_append]

theorem legible_of_addFields {path : Path} {record result : Record}
    {fields : List (String × Json)} (success : addFields path record fields = .ok result)
    (legible : ∀ entry ∈ record.entries, entry.2.Legible) :
    ∀ entry ∈ result.entries, entry.2.Legible := by
  induction fields generalizing record with
  | nil =>
      cases success
      exact legible
  | cons field fields induction =>
      obtain ⟨name, json⟩ := field
      obtain ⟨baseType, _, rest⟩ := bind_eq_ok_iff.mp success
      split at rest
      next => exact induction rest legible
      next => exact induction rest legible
      next raw _ _ =>
        obtain ⟨scalar, read, later⟩ := bind_eq_ok_iff.mp rest
        refine induction later fun entry member => ?_
        rcases mem_insertEntry member with rfl | old
        · exact Scalar.legible_ofJson read
        · exact legible entry old

theorem legible_ofJson {path : Path} {json : Json} {record : Record}
    (success : ofJson path json = .ok record) : ∀ entry ∈ record.entries, entry.2.Legible := by
  cases json with
  | object fields =>
      exact legible_of_addFields success fun entry member => absurd member List.not_mem_nil
  | null | bool | integer | float | string | array => cases success

theorem ofJson_toJson {record : Record} (legible : ∀ entry ∈ record.entries, entry.2.Legible)
    (notFile : ∀ entry ∈ record.entries, entry.2.baseType ≠ .file) (path : Path) :
    ofJson path record.toJson = .ok record :=
  addFields_toJson (List.nil_append _).symm
    (fun entry member inner =>
      Scalar.ofJson_toJson (legible entry member) (notFile entry member) inner)
    path

end Record

namespace Value

variable {cardinality : Cardinality} {baseType : Option BaseType} {path : Path} {json : Json}

theorem legible_of_scalarsOfJson {baseType : BaseType} {scalars : List Scalar}
    (success : scalarsOfJson baseType path json = .ok scalars) :
    ∀ scalar ∈ scalars, scalar.Legible := by
  intro scalar member
  unfold scalarsOfJson at success
  split at success
  next items =>
    obtain ⟨inner, item, read⟩ := Json.exists_of_mem_readItems success member
    exact Scalar.legible_ofJson read
  next =>
    obtain ⟨alone, read, rfl⟩ := map_eq_ok_iff.mp success
    rw [List.mem_singleton.mp member]
    exact Scalar.legible_ofJson read

/-- The scalars of a container are read back from its array. -/
theorem scalarsOfJson_toJson {baseType : BaseType} {scalars : List Scalar}
    (success : scalarsOfJson baseType path json = .ok scalars) (notFile : baseType ≠ .file)
    (again : Path) :
    scalarsOfJson baseType again (.array (scalars.map Scalar.toJson)) = .ok scalars := by
  refine Json.readItems_toJson (fun scalar member inner => ?_) again 0
  have typed : scalar.baseType = baseType := homogeneous_scalarsOfJson success scalar member
  have legible := legible_of_scalarsOfJson success scalar member
  have back := Scalar.ofJson_toJson legible (typed ▸ notFile) inner
  rwa [typed] at back

theorem ofJson_single {baseType : BaseType} (notNull : json ≠ .null) :
    ofJson .single (some baseType) path json =
      (Scalar.ofJson baseType path json).map .single := by
  cases json with
  | null => exact absurd rfl notNull
  | bool | integer | float | string | array | object => rfl

/-- A value that was read is written as JSON from which the same value is read, as the
same type and wherever it stands.  Identity is that of the data: the order of elements
and the two names of a pair are kept, and NaN and the two zeros stay what they are. -/
theorem ofJson_toJson_of_ofJson {value : Value}
    (success : ofJson cardinality baseType path json = .ok value)
    (notFile : baseType ≠ some .file)
    (fieldsNotFile : ∀ fields, value = .record fields →
      ∀ entry ∈ fields.entries, entry.2.baseType ≠ .file) (again : Path) :
    ofJson cardinality baseType again value.toJson = .ok value := by
  unfold ofJson at success
  split at success
  next =>
    cases success
    rfl
  next =>
    split at success
    next =>
      obtain ⟨record, read, rfl⟩ := map_eq_ok_iff.mp success
      have back := Record.ofJson_toJson (Record.legible_ofJson read)
        (fieldsNotFile record rfl) again
      show (Record.ofJson again record.toJson).map Value.record = .ok (.record record)
      rw [back]
      rfl
    next => cases success
    next declared =>
      obtain ⟨scalar, read, rfl⟩ := map_eq_ok_iff.mp success
      have typed : scalar.baseType = declared := Scalar.baseType_ofJson read
      have different : scalar.baseType ≠ .file := fun same =>
        notFile (congrArg some (typed.symm.trans same))
      have back := Scalar.ofJson_toJson (Scalar.legible_ofJson read) different again
      rw [typed] at back
      rw [toJson, ofJson_single scalar.toJson_ne_null, back]
      rfl
    next declared =>
      obtain ⟨scalars, read, rfl⟩ := map_eq_ok_iff.mp success
      have different : declared ≠ .file := fun same => notFile (congrArg some same)
      have back := scalarsOfJson_toJson read different again
      simp [ofJson, toJson, back, Except.map]
    next declared =>
      obtain ⟨scalars, read, rfl⟩ := map_eq_ok_iff.mp success
      have different : declared ≠ .file := fun same => notFile (congrArg some same)
      have back := scalarsOfJson_toJson read different again
      simp [ofJson, toJson, back, Except.map]

/-- A record whose pair is written with one blank, and whose duration is written in its
normal form. -/
theorem ofJson_toJson_of_ofJson_record :
    let json : Json := .object
      [("move", .object [("baseType", .string "pair"), ("value", .string " B  A")]),
        ("time", .object [("baseType", .string "duration"), ("value", .string "PT90S")])]
    let fields : Record := ⟨[("move", .pair "B" "A"), ("time", .duration ⟨90000000⟩)], by decide⟩
    ofJson .record none Path.root json = .ok (.record fields) ∧
      ofJson .record none Path.root (toJson (.record fields)) = .ok (.record fields) := by
  intro json fields
  have read : ofJson .record none Path.root json = .ok (.record fields) := by decide +kernel
  refine ⟨read, ofJson_toJson_of_ofJson read (by decide) ?_ Path.root⟩
  rintro _ ⟨rfl⟩
  decide

end Value

end Assessment
