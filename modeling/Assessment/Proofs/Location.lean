import Assessment.Document.Field
import Assessment.Proofs.NodeTree
import Assessment.Proofs.Success

/-!
# Where errors are located

A chain of keys and indices leads from a value to one of its parts.  A reader of a part
errs within it if the place of each of its errors is behind the path of the part, and the
rest of the way leads to what the error is about.  Readers err within a value if their
steps do, and a reader of a field errs within the value that has the field.
-/

namespace Assessment

/-! ## Chains -/

/-- The chain leads from one value to another one inside of it. -/
inductive Json.Leads : Json → Path → Json → Prop where
  | here (node : Json) : Leads node [] node
  | key {fields : List (String × Json)} {name : String} {value target : Json} {steps : Path} :
      (name, value) ∈ fields → Leads value steps target →
      Leads (.object fields) (.key name :: steps) target
  | index {items : List Json} {position : Nat} {item target : Json} {steps : Path} :
      items[position]? = some item → Leads item steps target →
      Leads (.array items) (.index position :: steps) target

/-- The chain leads to a value, or to a field that a value does not have. -/
inductive Json.HasPlace : Json → Path → Prop where
  | found {node target : Json} {steps : Path} : node.Leads steps target → HasPlace node steps
  | absent {node parent : Json} {steps : Path} {name : String} :
      node.Leads steps parent → parent.field? name = none → HasPlace node (steps ++ [.key name])

namespace Json

theorem mem_of_lookupEntry {name : String} {fields : List (String × Json)} {value : Json}
    (found : lookupEntry name fields = some value) : (name, value) ∈ fields := by
  induction fields with
  | nil => cases found
  | cons entry fields induction =>
      obtain ⟨other, first⟩ := entry
      rw [lookupEntry] at found
      split at found
      next same =>
        cases found
        rw [same]
        exact List.mem_cons_self
      next => exact List.mem_cons_of_mem _ (induction found)

theorem Leads.ofField {node value target : Json} {name : String} {steps : Path}
    (found : node.field? name = some value) (leads : value.Leads steps target) :
    node.Leads (.key name :: steps) target := by
  cases node with
  | object fields => exact .key (mem_of_lookupEntry found) leads
  | _ => cases found

/-- The field is absent or `null`. -/
def Lacks (node : Json) (name : String) : Prop :=
  node.field? name = none ∨ node.field? name = some .null

end Json

/-! ## Places of errors -/

namespace DocumentError

/-- The path that an error carries. -/
def path? : DocumentError → Option Path
  | .missingField path _ => some path
  | .invalidValue path _ => some path
  | .unknownKind path _ _ => some path
  | .model path _ => some path
  | .notJson => none

/-- The chain leads to what the error is about: a value that lacks the field, a value or
an absent field that is not valid, or a value of an unknown kind or without a meaning. -/
def IsAbout (node : Json) (chain : Path) : DocumentError → Prop
  | .missingField _ field => ∃ target, node.Leads chain target ∧ target.Lacks field
  | .invalidValue _ _ => node.HasPlace chain
  | .unknownKind _ _ _ => ∃ target, node.Leads chain target
  | .model _ _ => ∃ target, node.Leads chain target
  | .notJson => False

/-- The path of the error goes on behind the given one, to what it is about in the
node. -/
def Within (path : Path) (node : Json) (error : DocumentError) : Prop :=
  ∃ chain, error.path? = some (path ++ chain) ∧ error.IsAbout node chain

variable {path : Path} {node value : Json} {error : DocumentError} {field : String}

theorem Within.of_step {step : Path.Step} (within : error.Within (path ++ [step]) value)
    (leads : ∀ {steps : Path} {target : Json}, value.Leads steps target →
      node.Leads (step :: steps) target) : error.Within path node := by
  obtain ⟨chain, behind, about⟩ := within
  refine ⟨step :: chain, by simpa using behind, ?_⟩
  cases error with
  | missingField =>
      obtain ⟨target, found, lacks⟩ := about
      exact ⟨target, leads found, lacks⟩
  | invalidValue =>
      cases about with
      | found within => exact .found (leads within)
      | absent within lacking => exact .absent (leads within) lacking
  | unknownKind | model =>
      obtain ⟨target, found⟩ := about
      exact ⟨target, leads found⟩
  | notJson => cases about

theorem Within.of_field (within : error.Within (path.child field) value)
    (found : node.field? field = some value) : error.Within path node :=
  within.of_step fun leads => leads.ofField found

end DocumentError

/-! ## Readers -/

/-- All errors of the reader are about the node or something inside of it. -/
def Reading.ErrsWithin {α : Type} (path : Path) (node : Json) (reading : Reading α) : Prop :=
  ∀ error, reading = .error error → error.Within path node

namespace Reading.ErrsWithin

variable {α β : Type} {path : Path} {node value : Json} {field : String}

theorem ok (result : α) : ErrsWithin path node (.ok result) :=
  nofun

theorem pure (result : α) : ErrsWithin path node (Pure.pure result) :=
  nofun

theorem bind {first : Reading α} {next : α → Reading β} (errs : ErrsWithin path node first)
    (rest : ∀ result, first = .ok result → ErrsWithin path node (next result)) :
    ErrsWithin path node (first >>= next) := by
  intro error failed
  cases ended : first with
  | error cause =>
      rw [ended] at failed
      cases failed
      exact errs _ ended
  | ok result =>
      rw [ended] at failed
      exact rest result ended error failed

theorem mapM {items : List β} {read : β → Reading α}
    (errs : ∀ item, ErrsWithin path node (read item)) :
    ErrsWithin path node (items.mapM read) := by
  induction items with
  | nil => exact pure []
  | cons item items induction =>
      rw [List.mapM_cons]
      apply bind (errs item)
      intro first _
      exact bind induction fun others _ => pure _

theorem map {reading : Reading α} (convert : α → β) (errs : ErrsWithin path node reading) :
    ErrsWithin path node (reading.map convert) := by
  intro error failed
  cases ended : reading with
  | error cause =>
      rw [ended] at failed
      cases failed
      exact errs _ ended
  | ok result =>
      rw [ended] at failed
      cases failed

theorem invalid (mismatch : Mismatch) :
    ErrsWithin path node (Reading.invalid path mismatch : Reading α) := by
  rintro _ ⟨⟩
  exact ⟨[], by rw [List.append_nil]; rfl, .found (.here node)⟩

/-- A field may be found invalid whether it is there or not. -/
theorem invalidField (mismatch : Mismatch) :
    ErrsWithin path node (Reading.invalid (path.child field) mismatch : Reading α) := by
  rintro _ ⟨⟩
  refine ⟨[.key field], rfl, ?_⟩
  cases found : node.field? field with
  | none => exact .absent (.here node) found
  | some value => exact .found (Json.Leads.ofField found (.here value))

theorem missing (lacks : node.Lacks field) :
    ErrsWithin path node (Reading.missing path field : Reading α) := by
  rintro _ ⟨⟩
  exact ⟨[], by rw [List.append_nil]; rfl, node, .here node, lacks⟩

theorem ofModel (result : Except ModelError α) :
    ErrsWithin path node (Reading.ofModel path result) := by
  cases result with
  | ok result => exact ok result
  | error cause =>
      rintro _ ⟨⟩
      exact ⟨[], by rw [List.append_nil]; rfl, node, .here node⟩

theorem unknownKind (category kind : String) :
    ErrsWithin path node (.error (.unknownKind path category kind) : Reading α) := by
  rintro _ ⟨⟩
  exact ⟨[], by rw [List.append_nil]; rfl, node, .here node⟩

/-- The reader of a field errs within the value that has the field. -/
theorem ofField {reading : Reading α} (found : node.field? field = some value)
    (errs : ErrsWithin (path.child field) value reading) : ErrsWithin path node reading :=
  fun error failed => (errs error failed).of_field found

theorem ofItem {reading : Reading α} {items : List Json} {position : Nat} {item : Json}
    (found : items[position]? = some item) (errs : ErrsWithin (path.item position) item reading) :
    ErrsWithin path (.array items) reading :=
  fun error failed => (errs error failed).of_step (.index found)

theorem ofEntry {reading : Reading α} {fields : List (String × Json)} {name : String}
    (found : (name, value) ∈ fields) (errs : ErrsWithin (path.child name) value reading) :
    ErrsWithin path (.object fields) reading :=
  fun error failed => (errs error failed).of_step (.key found)

/-- A reader of items errs within the array if it errs within each item. -/
theorem readItems {read : Path → Json → Reading α} {items : List Json}
    (errs : ∀ item ∈ items, ∀ path, ErrsWithin path item (read path item)) :
    ErrsWithin path (.array items) (Json.readItems read path 0 items) := by
  have from_ : ∀ (rest : List Json) (position : Nat),
      (∀ offset item, rest[offset]? = some item → items[position + offset]? = some item) →
        ErrsWithin path (.array items) (Json.readItems read path position rest) := by
    intro rest
    induction rest with
    | nil => exact fun _ _ => ok []
    | cons item rest induction =>
        intro position places
        have here : items[position]? = some item := places 0 item rfl
        rw [Json.readItems]
        apply bind (ofItem here (errs item (List.mem_of_getElem? here) _))
        intro first _
        refine bind (induction (position + 1) ?_) fun others _ => pure _
        intro offset later found
        rw [Nat.add_assoc, Nat.add_comm 1 offset]
        exact places (offset + 1) later found
  exact from_ items 0 fun offset item found => by rwa [Nat.zero_add]

end Reading.ErrsWithin

/-! ## Fields -/

namespace Json

open Reading (ErrsWithin)

variable {α : Type} (path : Path) (node : Json) (field : String)

theorem errsWithin_requireArray : ErrsWithin path node (node.requireArray path) := by
  cases node with
  | array items => exact .ok items
  | _ => exact .invalid _

theorem errsWithin_requireField : ErrsWithin path node (node.requireField path field) := by
  unfold requireField
  split
  next => exact .ok _
  next absent => exact .missing (.inl absent)

theorem errsWithin_requireString : ErrsWithin path node (node.requireString path field) := by
  unfold requireString
  split
  next => exact .ok _
  next => exact .invalidField _
  next absent => exact .missing (.inl absent)

theorem errsWithin_optionalString : ErrsWithin path node (node.optionalString path field) := by
  unfold optionalString
  split
  next => exact .ok _
  next => exact .ok _
  next => exact .ok _
  next => exact .invalidField _

theorem errsWithin_optionalBoolean (default : Bool) :
    ErrsWithin path node (node.optionalBoolean path field default) := by
  unfold optionalBoolean
  split
  next => exact .ok _
  next => exact .ok _
  next => exact .ok _
  next => exact .invalidField _

theorem errsWithin_optionalNumber : ErrsWithin path node (node.optionalNumber path field) := by
  unfold optionalNumber
  split
  next => exact .ok _
  next => exact .ok _
  next =>
    split
    next => exact .ok _
    next => exact .invalidField _

theorem lacks_of_optionalNumber (absent : node.optionalNumber path field = .ok none) :
    node.Lacks field := by
  unfold optionalNumber at absent
  split at absent
  next none => exact .inl none
  next null => exact .inr null
  next =>
    split at absent
    next => cases absent
    next => cases absent

theorem errsWithin_requireNumber : ErrsWithin path node (node.requireNumber path field) := by
  apply ErrsWithin.bind (errsWithin_optionalNumber path node field)
  intro found read
  cases found with
  | some number => exact .pure number
  | none => exact .missing (lacks_of_optionalNumber path node field read)

theorem errsWithin_wordOr [Vocabulary α] (default : Option α) :
    ErrsWithin path node (node.wordOr α path field default) := by
  unfold wordOr
  split
  next => exact .ok _
  next absent => exact .missing (.inl absent)
  next =>
    split
    next => exact .ok _
    next => exact .invalidField _
  next => exact .invalidField _

theorem errsWithin_requireWord (α : Type) [Vocabulary α] :
    ErrsWithin path node (node.requireWord α path field) :=
  errsWithin_wordOr path node field none

theorem errsWithin_attributeOr (ofNumber : Json → Option α)
    (ofText : String → Option (Attribute α)) (default : Option α) :
    ErrsWithin path node (node.attributeOr ofNumber ofText path field default) := by
  unfold attributeOr
  split
  next => exact .ok _
  next absent => exact .missing (.inl absent)
  next =>
    split
    next => exact .ok _
    next => exact .invalidField _
  next =>
    split
    next =>
      split
      next => exact .ok _
      next => exact .invalidField _
    next => exact .invalidField _

theorem errsWithin_integerAttribute (default : Option Int64) :
    ErrsWithin path node (node.integerAttribute path field default) :=
  errsWithin_attributeOr path node field _ _ default

theorem errsWithin_floatAttribute (default : Option Float) :
    ErrsWithin path node (node.floatAttribute path field default) :=
  errsWithin_attributeOr path node field _ _ default

theorem errsWithin_stringAttribute :
    ErrsWithin path node (node.stringAttribute path field) :=
  errsWithin_attributeOr path node field _ _ none

end Json

end Assessment
