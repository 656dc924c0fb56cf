import Assessment.Document.Variable
import Assessment.Proofs.Location

/-!
# Errors in declarations

The readers of values, tables and declarations err within the part that they read.
-/

namespace Assessment

open Reading (ErrsWithin)

variable (path : Path) (node : Json)

/-! ## Values -/

theorem Scalar.errsWithin_ofJson (baseType : BaseType) :
    ErrsWithin path node (ofJson baseType path node) := by
  unfold ofJson
  cases node with
  | string text => exact .ofModel _
  | bool value =>
      dsimp only
      split
      next => exact .ok _
      next => exact .invalid _
  | integer | float =>
      dsimp only
      split
      case h_4 => exact .ofModel _
      -- the numeric base types take the number itself, if it fits
      all_goals
        split
        next => exact .ok _
        next => exact .invalid _
  | _ => exact .invalid _

namespace Record

theorem errsWithin_addFields {fields : List (String × Json)} (record : Record)
    (rest : List (String × Json)) (inside : ∀ entry ∈ rest, entry ∈ fields) :
    ErrsWithin path (.object fields) (addFields path record rest) := by
  induction rest generalizing record with
  | nil => exact .ok record
  | cons entry rest induction =>
      obtain ⟨name, field⟩ := entry
      have here : (name, field) ∈ fields := inside _ List.mem_cons_self
      have others := fun record =>
        induction record fun entry member => inside entry (List.mem_cons_of_mem _ member)
      rw [addFields]
      apply ErrsWithin.bind
        (.ofEntry here (field.errsWithin_requireWord (path.child name) "baseType" BaseType))
      intro baseType _
      split
      next => exact others record
      next => exact others record
      next raw _ found =>
        have scalar := Scalar.errsWithin_ofJson ((path.child name).child "value") raw baseType
        apply ErrsWithin.bind (.ofEntry here (.ofField found scalar))
        intro scalar _
        exact others _

theorem errsWithin_ofJson : ErrsWithin path node (ofJson path node) := by
  cases node with
  | object fields => exact errsWithin_addFields path Dictionary.empty fields fun _ member => member
  | _ => exact .invalid _

end Record

namespace Value

theorem errsWithin_scalarsOfJson (baseType : BaseType) :
    ErrsWithin path node (scalarsOfJson baseType path node) := by
  cases node with
  | array items =>
      exact .readItems fun item _ path => Scalar.errsWithin_ofJson path item baseType
  | _ => exact .map ([·]) (Scalar.errsWithin_ofJson path _ baseType)

/-- A declared type has a base type wherever one is needed. -/
theorem errsWithin_ofJsonAs (type : DeclaredType) :
    ErrsWithin path node (ofJsonAs type path node) := by
  by_cases null : node = .null
  · subst null
    exact .ok _
  · cases type with
    | record =>
        have read : ofJsonAs .record path node = (Record.ofJson path node).map .record := by
          cases node <;> first | rfl | exact absurd rfl null
        rw [read]
        exact .map _ (Record.errsWithin_ofJson path node)
    | single baseType =>
        have read : ofJsonAs (.single baseType) path node =
            (Scalar.ofJson baseType path node).map .single := by
          cases node <;> first | rfl | exact absurd rfl null
        rw [read]
        exact .map _ (Scalar.errsWithin_ofJson path node baseType)
    | multiple baseType =>
        have read : ofJsonAs (.multiple baseType) path node =
            (scalarsOfJson baseType path node).map fun values => .multiple ⟨baseType, values⟩ := by
          cases node <;> first | rfl | exact absurd rfl null
        rw [read]
        exact .map _ (errsWithin_scalarsOfJson path node baseType)
    | ordered baseType =>
        have read : ofJsonAs (.ordered baseType) path node =
            (scalarsOfJson baseType path node).map fun values => .ordered ⟨baseType, values⟩ := by
          cases node <;> first | rfl | exact absurd rfl null
        rw [read]
        exact .map _ (errsWithin_scalarsOfJson path node baseType)

end Value

/-! ## Tables -/

namespace Area

theorem errsWithin_ofItems (shape : Shape) (items : List Json) :
    ErrsWithin path node (ofItems shape path items) := by
  unfold ofItems
  split
  next => exact .ofModel _
  next => exact .invalid _

theorem errsWithin_ofJson : ErrsWithin path node (ofJson path node) := by
  apply ErrsWithin.bind (node.errsWithin_requireWord path "shape" Shape)
  intro shape _
  split
  next absent =>
    split
    next => exact .ofModel _
    next => exact .missing (.inl absent)
  next found => exact .ofField found (.ofModel _)
  next items found => exact .ofField found (errsWithin_ofItems _ _ shape items)
  next => exact .invalidField _

end Area

theorem Json.errsWithin_readEntries {α : Type} {read : Path → Json → Reading α}
    (errs : ∀ path item, ErrsWithin path item (read path item)) :
    ErrsWithin path node (node.readEntries read path) := by
  unfold readEntries
  split
  next => exact .ok []
  next raw found =>
    apply ErrsWithin.ofField found
    cases raw with
    | array items => exact .readItems fun item _ path => errs path item
    | _ => exact .invalid _

theorem Bounds.errsWithin_ofJson : ErrsWithin path node (ofJson path node) := by
  apply ErrsWithin.bind (node.errsWithin_optionalNumber path "lowerBound")
  intro lower _
  apply ErrsWithin.bind (node.errsWithin_optionalNumber path "upperBound")
  intro upper _
  exact .pure _

theorem Json.errsWithin_defaultScore : ErrsWithin path node (node.defaultScore path) := by
  apply ErrsWithin.bind (node.errsWithin_optionalNumber path "defaultValue")
  intro default _
  exact .pure _

/-- A required field whose value is read as a scalar. -/
theorem Scalar.errsWithin_ofField {α : Type} (baseType : BaseType) (field : String)
    {next : Scalar → Reading α} (rest : ∀ scalar, ErrsWithin path node (next scalar)) :
    ErrsWithin path node (do
      let raw ← node.requireField path field
      let scalar ← ofJson baseType (path.child field) raw
      next scalar) := by
  apply ErrsWithin.bind (node.errsWithin_requireField path field)
  intro raw required
  have found := Json.requireField_eq_ok required
  apply ErrsWithin.bind (.ofField found (errsWithin_ofJson _ raw baseType))
  intro scalar _
  exact rest scalar

theorem MapEntry.errsWithin_ofJson (baseType : BaseType) :
    ErrsWithin path node (ofJson baseType path node) := by
  apply Scalar.errsWithin_ofField path node baseType "mapKey"
  intro key
  apply ErrsWithin.bind (node.errsWithin_requireNumber path "mappedValue")
  intro score _
  apply ErrsWithin.bind (node.errsWithin_optionalBoolean path "caseSensitive" true)
  intro caseSensitive _
  exact .pure _

theorem Mapping.errsWithin_ofJson (baseType : BaseType) :
    ErrsWithin path node (ofJson baseType path node) := by
  apply ErrsWithin.bind
    (node.errsWithin_readEntries path fun path item =>
      MapEntry.errsWithin_ofJson path item baseType)
  intro entries _
  apply ErrsWithin.bind (Bounds.errsWithin_ofJson path node)
  intro bounds _
  apply ErrsWithin.bind (node.errsWithin_defaultScore path)
  intro default _
  exact .pure _

theorem AreaEntry.errsWithin_ofJson : ErrsWithin path node (ofJson path node) := by
  apply ErrsWithin.bind (Area.errsWithin_ofJson path node)
  intro area _
  apply ErrsWithin.bind (node.errsWithin_requireNumber path "mappedValue")
  intro score _
  exact .pure _

theorem AreaMapping.errsWithin_ofJson : ErrsWithin path node (ofJson path node) := by
  apply ErrsWithin.bind (node.errsWithin_readEntries path AreaEntry.errsWithin_ofJson)
  intro entries _
  apply ErrsWithin.bind (Bounds.errsWithin_ofJson path node)
  intro bounds _
  apply ErrsWithin.bind (node.errsWithin_defaultScore path)
  intro default _
  exact .pure _

namespace LookupTable

theorem errsWithin_targetOfJson (baseType : BaseType) :
    ErrsWithin path node (targetOfJson baseType path node) := by
  have errs := Scalar.errsWithin_ofField path node baseType "target" fun scalar =>
    ErrsWithin.pure scalar
  simpa [targetOfJson] using errs

theorem errsWithin_matchEntryOfJson (baseType : BaseType) :
    ErrsWithin path node (matchEntryOfJson baseType path node) := by
  unfold matchEntryOfJson
  split
  next => exact .map _ (errsWithin_targetOfJson path node baseType)
  next => exact .invalidField _

theorem errsWithin_interpolationEntryOfJson (baseType : BaseType) :
    ErrsWithin path node (interpolationEntryOfJson baseType path node) := by
  apply ErrsWithin.bind (node.errsWithin_requireNumber path "source")
  intro source _
  apply ErrsWithin.bind (node.errsWithin_optionalBoolean path "includeBoundary" true)
  intro includeBoundary _
  apply ErrsWithin.bind (errsWithin_targetOfJson path node baseType)
  intro target _
  exact .pure _

theorem errsWithin_defaultOfJson (baseType : BaseType) :
    ErrsWithin path node (defaultOfJson baseType path node) := by
  unfold defaultOfJson
  split
  next => exact .ok _
  next => exact .ok _
  next raw _ found => exact .map _ (.ofField found (Scalar.errsWithin_ofJson _ raw baseType))

/-- The items of the table are those of the field `entries`, if there is one. -/
theorem errsWithin_entries {α : Type} {read : Path → Json → Reading α} {entries : List Json}
    (errs : ∀ path item, ErrsWithin path item (read path item))
    (listed : node.field? "entries" = some (.array entries) ∨ entries = []) :
    ErrsWithin path node (Json.readItems read (path.child "entries") 0 entries) := by
  rcases listed with found | rfl
  · exact .ofField found (.readItems fun item _ path => errs path item)
  · exact .ok []

theorem errsWithin_ofJson (baseType : BaseType) :
    ErrsWithin path node (ofJson baseType path node) := by
  have tables : ∀ default entries,
      (node.field? "entries" = some (.array entries) ∨ entries = []) →
        ErrsWithin path node (do
          let kind ← node.requireString path "type"
          if kind == "match" then
            let entries ←
              Json.readItems (matchEntryOfJson baseType) (path.child "entries") 0 entries
            return LookupTable.exact default entries
          else if kind == "interpolation" then
            let entries ←
              Json.readItems (interpolationEntryOfJson baseType) (path.child "entries") 0 entries
            return .interpolation default entries
          else Reading.invalid (path.child "type") (.unknownTable kind)) := by
    intro default entries listed
    apply ErrsWithin.bind (node.errsWithin_requireString path "type")
    intro kind _
    split
    next =>
      apply ErrsWithin.bind
        (errsWithin_entries path node (errsWithin_matchEntryOfJson · · baseType) listed)
      intro entries _
      exact .pure _
    next =>
      split
      next =>
        apply ErrsWithin.bind
          (errsWithin_entries path node (errsWithin_interpolationEntryOfJson · · baseType) listed)
        intro entries _
        exact .pure _
      next => exact .invalidField _
  unfold ofJson
  apply ErrsWithin.bind (errsWithin_defaultOfJson path node baseType)
  intro default _
  cases found : node.field? "entries" with
  | none => exact tables default [] (.inr rfl)
  | some raw =>
      apply ErrsWithin.bind (.ofField found (raw.errsWithin_requireArray _))
      intro entries isArray
      cases raw with
      | array items =>
          cases isArray
          exact tables default entries (.inl found)
      | _ => cases isArray

end LookupTable

/-! ## Roles and types -/

namespace Role

theorem errsWithin_kindOfJson : ErrsWithin path node (kindOfJson path node) := by
  apply ErrsWithin.bind (node.errsWithin_requireString path "role")
  intro text _
  split
  next => exact .pure _
  next =>
    split
    next => exact .pure _
    next =>
      split
      next => exact .pure _
      next => exact .invalidField _

theorem errsWithin_tableOfJson {α : Type} {read : BaseType → Path → Json → Reading α}
    (errs : ∀ baseType path item, ErrsWithin path item (read baseType path item))
    (type : DeclaredType) (refusal : Mismatch) (field : String) :
    ErrsWithin path node (tableOfJson read type refusal path node field) := by
  unfold tableOfJson
  split
  next => exact .ok _
  next found _ => exact .map _ (.ofField found (errs _ _ _))
  next => exact .invalidField _

theorem errsWithin_responseOfJson (type : DeclaredType) :
    ErrsWithin path node (responseOfJson type path node) := by
  unfold responseOfJson
  cases found : node.field? "correctResponse"
  case' none => apply ErrsWithin.bind (.pure Value.null)
  case' some raw => apply ErrsWithin.bind (.ofField found (Value.errsWithin_ofJsonAs _ raw type))
  all_goals
    intro correct _
    apply ErrsWithin.bind (errsWithin_tableOfJson path node
      (fun baseType path item => Mapping.errsWithin_ofJson path item baseType) type _ "mapping")
    intro mapping _
    cases areaFound : node.field? "areaMapping"
    case' none => apply ErrsWithin.bind (.pure none)
    case' some raw =>
      apply ErrsWithin.bind (.map _ (.ofField areaFound (AreaMapping.errsWithin_ofJson _ raw)))
    all_goals
      intro areaMapping _
      exact .pure _

theorem errsWithin_outcomeOfJson (type : DeclaredType) :
    ErrsWithin path node (outcomeOfJson type path node) := by
  apply ErrsWithin.bind (node.errsWithin_optionalNumber path "normalMaximum")
  intro normalMaximum _
  apply ErrsWithin.bind (node.errsWithin_optionalNumber path "normalMinimum")
  intro normalMinimum _
  apply ErrsWithin.bind (node.errsWithin_optionalNumber path "masteryValue")
  intro masteryValue _
  apply ErrsWithin.bind (errsWithin_tableOfJson path node
    (fun baseType path item => LookupTable.errsWithin_ofJson path item baseType) type _
    "lookupTable")
  intro lookupTable _
  exact .pure _

theorem errsWithin_templateOfJson : ErrsWithin path node (templateOfJson path node) := by
  apply ErrsWithin.bind (node.errsWithin_optionalBoolean path "paramVariable" false)
  intro isParameter _
  apply ErrsWithin.bind (node.errsWithin_optionalBoolean path "mathVariable" false)
  intro isMath _
  exact .pure _

theorem errsWithin_ofJson (kind : RoleKind) (type : DeclaredType) :
    ErrsWithin path node (ofJson kind type path node) := by
  cases kind with
  | response => exact .map _ (errsWithin_responseOfJson path node type)
  | outcome => exact .map _ (errsWithin_outcomeOfJson path node type)
  | template => exact .map _ (errsWithin_templateOfJson path node)

end Role

theorem DeclaredType.errsWithin_ofJson : ErrsWithin path node (ofJson path node) := by
  unfold ofJson
  apply ErrsWithin.bind (node.errsWithin_requireWord path "cardinality" Cardinality)
  intro cardinality _
  split
  case' h_1 | h_2 => apply ErrsWithin.bind (.pure none)
  case' h_3 =>
    apply ErrsWithin.bind (.map _ (node.errsWithin_requireWord path "baseType" BaseType))
  all_goals
    intro baseType _
    dsimp only
    split
    next => exact .pure _
    next => exact .ofModel (.error _)

theorem Variable.errsWithin_ofJson : ErrsWithin path node (ofJson path node) := by
  unfold ofJson
  apply ErrsWithin.bind (node.errsWithin_requireString path "identifier")
  intro identifier _
  apply ErrsWithin.bind (Role.errsWithin_kindOfJson path node)
  intro kind _
  apply ErrsWithin.bind (DeclaredType.errsWithin_ofJson path node)
  intro type _
  cases found : node.field? "defaultValue"
  case' none => apply ErrsWithin.bind (.pure Value.null)
  case' some raw => apply ErrsWithin.bind (.ofField found (Value.errsWithin_ofJsonAs _ raw type))
  all_goals
    intro defaultValue _
    apply ErrsWithin.bind (Role.errsWithin_ofJson path node kind type)
    intro role _
    exact .pure _

end Assessment
