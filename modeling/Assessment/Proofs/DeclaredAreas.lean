import Assessment.Document.Expression
import Assessment.Proofs.AreaAccess
import Assessment.Proofs.Conformance

/-!
# Areas in documents

Every area that is read from a document is made of a shape and its coordinates, in
expressions as well as in declarations, and no store of an attempt has another one.
-/

namespace Assessment

/-! ## Reading -/

theorem Reading.ofModel_eq_ok_iff {α : Type} {path : Path} {result : Except ModelError α}
    {value : α} : Reading.ofModel path result = .ok value ↔ result = .ok value := by
  cases result <;> simp [Reading.ofModel]

namespace Area

variable {path : Path} {shape : Shape} {area : Area}

theorem made_of_read {text : List Char} (success : read shape text = .ok area) : area.Made := by
  unfold read at success
  dsimp only at success
  split at success
  next => exact made_of_make success
  next =>
    split at success
    next => exact made_of_make success
    next => cases success

theorem made_of_ofJson {node : Json} (success : ofJson path node = .ok area) : area.Made := by
  obtain ⟨shape, _, rest⟩ := bind_eq_ok_iff.mp success
  split at rest
  next =>
    split at rest
    next => exact made_of_make (Reading.ofModel_eq_ok_iff.mp rest)
    next => cases rest
  next => exact made_of_read (Reading.ofModel_eq_ok_iff.mp rest)
  next =>
    unfold ofItems at rest
    split at rest
    next => exact made_of_make (Reading.ofModel_eq_ok_iff.mp rest)
    next => cases rest
  next => cases rest

end Area

namespace Operator

/-- The area of the operator is made, if it has one. -/
def AreaMade (operator : Operator) : Prop :=
  ∀ area, operator = .inside area → area.Made

/-- Only one of the kinds reads an area. -/
theorem areaMade_of_ofJson {kind : String} {path : Path} {node : Json} {operator : Operator}
    (success : ofJson kind path node = .ok (some operator)) : operator.AreaMade := by
  rintro area rfl
  unfold ofJson at success
  split at success
  case h_17 =>
    obtain ⟨read, areaRead, together⟩ := bind_eq_ok_iff.mp success
    cases together
    exact Area.made_of_ofJson areaRead
  all_goals first
    | cases success
    | (obtain ⟨_, _, together⟩ := bind_eq_ok_iff.mp success
       cases together)
    | (obtain ⟨_, _, rest⟩ := bind_eq_ok_iff.mp success
       obtain ⟨_, _, together⟩ := bind_eq_ok_iff.mp rest
       cases together)

end Operator

namespace Expression

mutual

/-- All areas in the expression are made. -/
def AreasMade : Expression → Prop
  | .apply operator operands => operator.AreaMade ∧ AllAreasMade operands
  | .custom _ operands => AllAreasMade operands
  | _ => True

def AllAreasMade : List Expression → Prop
  | [] => True
  | operand :: operands => AreasMade operand ∧ AllAreasMade operands

end

/-- An expression has no other areas than those of its operator and operands. -/
theorem areasMade_of_assemble {path : Path} {node : Json} {kind : String}
    {operands : List Expression} {expression : Expression} (made : AllAreasMade operands)
    (success : assemble path node kind operands = .ok expression) : expression.AreasMade := by
  unfold assemble at success
  split at success
  case h_11 =>
    obtain ⟨operator, _, together⟩ := bind_eq_ok_iff.mp success
    cases together
    exact made
  case h_12 =>
    obtain ⟨found, operatorRead, together⟩ := bind_eq_ok_iff.mp success
    cases found with
    | none => cases together
    | some operator =>
        cases together
        exact ⟨Operator.areaMade_of_ofJson operatorRead, made⟩
  -- the other kinds are leaves
  case h_1 | h_9 =>
    obtain ⟨_, _, rest⟩ := bind_eq_ok_iff.mp success
    obtain ⟨_, _, rest⟩ := bind_eq_ok_iff.mp rest
    obtain ⟨_, _, together⟩ := bind_eq_ok_iff.mp rest
    cases together
    trivial
  case h_10 =>
    obtain ⟨_, _, rest⟩ := bind_eq_ok_iff.mp success
    obtain ⟨_, _, together⟩ := bind_eq_ok_iff.mp rest
    cases together
    trivial
  case h_5 =>
    cases success
    trivial
  all_goals
    obtain ⟨_, _, rfl⟩ := map_eq_ok_iff.mp success
    trivial

mutual

theorem areasMade_of_ofJson {path : Path} {node : Json} {expression : Expression}
    (success : ofJson path node = .ok expression) : expression.AreasMade := by
  rw [ofJson] at success
  obtain ⟨kind, _, rest⟩ := bind_eq_ok_iff.mp success
  split at rest
  next => exact areasMade_of_assemble (by trivial) rest
  next items found =>
    have smaller := Json.sizeOf_items_lt found
    obtain ⟨operands, operandsRead, assembled⟩ := bind_eq_ok_iff.mp rest
    exact areasMade_of_assemble (allAreasMade_of_ofItems operandsRead) assembled
  next => cases rest
  termination_by sizeOf node

theorem allAreasMade_of_ofItems {path : Path} {position : Nat} {items : List Json}
    {operands : List Expression} (success : ofItems path position items = .ok operands) :
    AllAreasMade operands := by
  cases items with
  | nil =>
      rw [ofItems] at success
      cases success
      trivial
  | cons item items =>
      rw [ofItems] at success
      obtain ⟨operand, first, rest⟩ := bind_eq_ok_iff.mp success
      obtain ⟨operands, others, together⟩ := bind_eq_ok_iff.mp rest
      cases together
      exact ⟨areasMade_of_ofJson first, allAreasMade_of_ofItems others⟩
  termination_by sizeOf items

end

end Expression

/-! ## Declarations -/

theorem AreaMapping.made_ofJson {path : Path} {node : Json} {mapping : AreaMapping}
    (success : ofJson path node = .ok mapping) : mapping.Made := by
  obtain ⟨entries, entriesRead, rest⟩ := bind_eq_ok_iff.mp success
  obtain ⟨bounds, _, rest⟩ := bind_eq_ok_iff.mp rest
  obtain ⟨default, _, together⟩ := bind_eq_ok_iff.mp rest
  cases together
  intro entry member
  unfold Json.readEntries at entriesRead
  split at entriesRead
  next =>
    cases entriesRead
    cases member
  next =>
    obtain ⟨items, _, itemsRead⟩ := bind_eq_ok_iff.mp entriesRead
    obtain ⟨inner, item, read⟩ := Json.exists_of_mem_readItems itemsRead member
    obtain ⟨area, areaRead, rest⟩ := bind_eq_ok_iff.mp read
    obtain ⟨score, _, together⟩ := bind_eq_ok_iff.mp rest
    cases together
    exact Area.made_of_ofJson areaRead

/-- The area mapping of the role is made, if it has one. -/
def Role.AreasMade (role : Role) : Prop :=
  ∀ info mapping, role = .response info → info.areaMapping = some mapping → mapping.Made

namespace Role

theorem areaMapping_of_parts {correct : Reading Value} {mapping : Reading (Option Mapping)}
    {areaMapping : Reading (Option AreaMapping)} {info : ResponseInfo}
    (success : (do
      let correct ← correct
      let mapping ← mapping
      let areaMapping ← areaMapping
      return (⟨correct, mapping, areaMapping⟩ : ResponseInfo)) = Except.ok info) :
    areaMapping = .ok info.areaMapping := by
  obtain ⟨_, _, rest⟩ := bind_eq_ok_iff.mp success
  obtain ⟨_, _, rest⟩ := bind_eq_ok_iff.mp rest
  obtain ⟨_, read, together⟩ := bind_eq_ok_iff.mp rest
  cases together
  exact read

theorem made_of_responseOfJson {type : DeclaredType} {path : Path} {node : Json}
    {info : ResponseInfo} {mapping : AreaMapping}
    (success : responseOfJson type path node = .ok info)
    (declared : info.areaMapping = some mapping) : mapping.Made := by
  unfold responseOfJson at success
  cases areaField : node.field? "areaMapping" with
  | none =>
      cases correctField : node.field? "correctResponse" <;>
        simp only [areaField, correctField] at success <;>
        · have absent := Except.ok.inj (areaMapping_of_parts success)
          rw [declared] at absent
          cases absent
  | some raw =>
      cases correctField : node.field? "correctResponse" <;>
        simp only [areaField, correctField] at success <;>
        · obtain ⟨read, mappingRead, same⟩ := map_eq_ok_iff.mp (areaMapping_of_parts success)
          rw [declared] at same
          cases same
          exact AreaMapping.made_ofJson mappingRead

theorem areasMade_of_ofJson {kind : RoleKind} {type : DeclaredType} {path : Path} {node : Json}
    {role : Role} (success : ofJson kind type path node = .ok role) : role.AreasMade := by
  rintro info mapping rfl declared
  cases kind with
  | response =>
      obtain ⟨read, responseRead, same⟩ := map_eq_ok_iff.mp success
      cases same
      unfold responseOfJson at responseRead
      exact made_of_responseOfJson responseRead declared
  | outcome =>
      obtain ⟨_, _, same⟩ := map_eq_ok_iff.mp success
      cases same
  | template =>
      obtain ⟨_, _, same⟩ := map_eq_ok_iff.mp success
      cases same

end Role

/-- All areas that the variables of the store are scored by are made. -/
def Store.AreasMade (store : Store) : Prop :=
  ∀ v ∈ store.declared, v.role.AreasMade

theorem Variable.areasMade_ofJson {path : Path} {node : Json} {v : Variable}
    (success : ofJson path node = .ok v) : v.role.AreasMade := by
  obtain ⟨identifier, _, rest⟩ := bind_eq_ok_iff.mp success
  obtain ⟨kind, _, rest⟩ := bind_eq_ok_iff.mp rest
  obtain ⟨type, _, rest⟩ := bind_eq_ok_iff.mp rest
  cases defaultField : node.field? "defaultValue" <;> simp only [defaultField] at rest <;>
    · obtain ⟨defaultValue, _, rest⟩ := bind_eq_ok_iff.mp rest
      obtain ⟨role, roleRead, together⟩ := bind_eq_ok_iff.mp rest
      cases together
      exact Role.areasMade_of_ofJson roleRead

namespace Store.AreasMade

variable {store : Store}

/-- A correct response may change beside an area mapping, which never changes. -/
theorem put (made : store.AreasMade) (kind : AssignmentKind) (value : Value)
    (identifier : String) : (store.update identifier (kind.put value)).AreasMade := by
  intro changed member
  rcases mem_update (fun _ => AssignmentKind.identifier_put) member with
    same | ⟨old, found, rfl⟩
  · exact made changed same
  · have oldMade := made old (mem_of_get? found)
    cases kind with
    | outcomeValue | templateValue | outcomeLookup | defaultValue => exact oldMade
    | correctResponse =>
        simp only [AssignmentKind.put, Variable.setCorrect]
        split
        next info response =>
          rintro changedInfo mapping same declared
          cases same
          exact oldMade info mapping response declared
        next => exact oldMade

theorem resetWhere (made : store.AreasMade) (condition : Variable → Bool) :
    (store.resetWhere condition).AreasMade := by
  intro changed member
  obtain ⟨old, oldMember, rfl⟩ := List.mem_map.mp member
  split
  next => exact made old oldMember
  next => exact made old oldMember

theorem stable : Store.Stable Store.AreasMade where
  put made _ _ := made.put _ _ _
  resetWhere made condition := made.resetWhere condition

end Store.AreasMade

namespace Document

variable {node : Json} {document : Document} {store : Store}

theorem areasMade_newStore (accepted : ofJson node = .ok document) :
    document.newStore.AreasMade := by
  refine Store.AreasMade.resetWhere (fun v member => ?_) _
  obtain ⟨path, item, read⟩ := exists_read_of_mem accepted (Store.mem_ofList member)
  exact Variable.areasMade_ofJson read

theorem Reaches.areasMade (accepted : ofJson node = .ok document)
    (reaches : document.Reaches store) : store.AreasMade :=
  reaches.keeps Store.AreasMade.stable (areasMade_newStore accepted)

end Document

end Assessment
