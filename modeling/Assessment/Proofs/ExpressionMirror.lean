import Assessment.Document.Expression
import Assessment.Proofs.NodeTree
import Assessment.Proofs.Success

/-!
# Expressions mirror their nodes

An expression that is read from JSON has the kind of its node.  Its operands are read
from the operands of the node, one to one and in order; operands are read even where the
expression has no place for them, so that all of them need a kind that is known.
-/

namespace Assessment

/-- The kinds of operators are their names. -/
theorem Operator.name_of_ofJson {kind : String} {path : Path} {node : Json}
    {operator : Operator} (success : ofJson kind path node = .ok (some operator)) :
    operator.name = kind := by
  unfold ofJson at success
  split at success
  all_goals first
    | (cases success <;> rfl)
    | (obtain ⟨_, _, together⟩ := bind_eq_ok_iff.mp success
       cases together
       rfl)
    | (obtain ⟨_, _, rest⟩ := bind_eq_ok_iff.mp success
       obtain ⟨_, _, together⟩ := bind_eq_ok_iff.mp rest
       cases together
       rfl)

namespace Expression

/-- The expression has no place for operands. -/
def IsLeaf : Expression → Prop
  | .apply .. => False
  | .custom .. => False
  | _ => True

/-- What is made of a kind and operands has this kind, and either exactly these operands
or no place for them. -/
theorem assemble_cases {path : Path} {node : Json} {kind : String}
    {operands : List Expression} {expression : Expression}
    (success : assemble path node kind operands = .ok expression) :
    expression.name = kind ∧
      (expression.IsLeaf ∨ (∃ operator, expression = .apply operator operands) ∨
        ∃ operator, expression = .custom operator operands) := by
  unfold assemble at success
  split at success
  case h_11 =>
    obtain ⟨operator, _, together⟩ := bind_eq_ok_iff.mp success
    cases together
    exact ⟨rfl, .inr (.inr ⟨operator, rfl⟩)⟩
  case h_12 =>
    obtain ⟨found, operatorRead, together⟩ := bind_eq_ok_iff.mp success
    cases found with
    | none => cases together
    | some operator =>
        cases together
        exact ⟨Operator.name_of_ofJson operatorRead, .inr (.inl ⟨operator, rfl⟩)⟩
  -- the other kinds are leaves
  case h_1 | h_9 =>
    obtain ⟨_, _, rest⟩ := bind_eq_ok_iff.mp success
    obtain ⟨_, _, rest⟩ := bind_eq_ok_iff.mp rest
    obtain ⟨_, _, together⟩ := bind_eq_ok_iff.mp rest
    cases together
    exact ⟨rfl, .inl trivial⟩
  case h_10 =>
    obtain ⟨_, _, rest⟩ := bind_eq_ok_iff.mp success
    obtain ⟨_, _, together⟩ := bind_eq_ok_iff.mp rest
    cases together
    exact ⟨rfl, .inl trivial⟩
  case h_5 =>
    cases success
    exact ⟨rfl, .inl trivial⟩
  all_goals
    obtain ⟨_, _, rfl⟩ := map_eq_ok_iff.mp success
    exact ⟨rfl, .inl trivial⟩

mutual

/-- The expression has the kind of the node, and its operands, if it has a place for
them, are read from the operands of the node and mirror these. -/
def Mirrors (expression : Expression) (node : Json) : Prop :=
  node.kind? = some expression.name ∧
    match expression with
    | .apply _ operands => AllMirror operands (node.itemsOf "operands")
    | .custom _ operands => AllMirror operands (node.itemsOf "operands")
    | _ => True

def AllMirror : List Expression → List Json → Prop
  | [], [] => True
  | operand :: operands, node :: nodes =>
      (∃ path, ofJson path node = .ok operand) ∧ Mirrors operand node ∧ AllMirror operands nodes
  | _, _ => False

end

theorem Mirrors.kind {expression : Expression} {node : Json}
    (mirrors : expression.Mirrors node) : node.kind? = some expression.name := by
  unfold Mirrors at mirrors
  exact mirrors.1

/-- What reading an expression consists of. -/
theorem ofJson_cases {path : Path} {node : Json} {expression : Expression}
    (success : ofJson path node = .ok expression) :
    ∃ kind operands, node.kind? = some kind ∧
      ofItems (path.child "operands") 0 (node.itemsOf "operands") = .ok operands ∧
      assemble path node kind operands = .ok expression := by
  rw [ofJson] at success
  obtain ⟨kind, kindRead, rest⟩ := bind_eq_ok_iff.mp success
  refine ⟨kind, ?_⟩
  split at rest
  next absent =>
    refine ⟨[], Json.kind?_of_requireString kindRead, ?_, rest⟩
    rw [Json.itemsOf_of_none absent, ofItems]
  next items found =>
    obtain ⟨operands, operandsRead, assembled⟩ := bind_eq_ok_iff.mp rest
    rw [Json.itemsOf_of_field? found]
    exact ⟨operands, Json.kind?_of_requireString kindRead, operandsRead, assembled⟩
  next => cases rest

theorem ofItems_cons_cases {path : Path} {position : Nat} {item : Json} {items : List Json}
    {operands : List Expression} (success : ofItems path position (item :: items) = .ok operands) :
    ∃ operand rest, operands = operand :: rest ∧
      ofJson (path.item position) item = .ok operand ∧
      ofItems path (position + 1) items = .ok rest := by
  rw [ofItems] at success
  obtain ⟨operand, first, rest⟩ := bind_eq_ok_iff.mp success
  obtain ⟨operands, others, together⟩ := bind_eq_ok_iff.mp rest
  cases together
  exact ⟨operand, operands, rfl, first, others⟩

/-- Operands mirror their items if reading an item gives what mirrors it. -/
theorem allMirror_of_ofItems {path : Path} {position : Nat} {items : List Json}
    {operands : List Expression} (success : ofItems path position items = .ok operands)
    (mirrors : ∀ item ∈ items, ∀ (path : Path) (operand : Expression),
      ofJson path item = .ok operand → operand.Mirrors item) :
    AllMirror operands items := by
  induction items generalizing position operands with
  | nil =>
      rw [ofItems] at success
      cases success
      trivial
  | cons item items induction =>
      obtain ⟨operand, rest, rfl, first, others⟩ := ofItems_cons_cases success
      refine ⟨⟨_, first⟩, mirrors item List.mem_cons_self _ _ first, ?_⟩
      exact induction others fun later member => mirrors later (List.mem_cons_of_mem item member)

theorem mirrors_of_ofJson {path : Path} {node : Json} {expression : Expression}
    (success : ofJson path node = .ok expression) : expression.Mirrors node := by
  obtain ⟨kind, operands, named, operandsRead, assembled⟩ := ofJson_cases success
  have mirror : AllMirror operands (node.itemsOf "operands") :=
    allMirror_of_ofItems operandsRead fun item _ _ _ read => mirrors_of_ofJson read
  obtain ⟨name, form⟩ := assemble_cases assembled
  rw [← name] at named
  rcases form with leaf | ⟨operator, rfl⟩ | ⟨operator, rfl⟩
  · cases expression with
    | apply | custom => cases leaf
    | _ => exact ⟨named, trivial⟩
  · exact ⟨named, mirror⟩
  · exact ⟨named, mirror⟩
  termination_by sizeOf node
  decreasing_by exact Json.sizeOf_lt_of_mem_itemsOf ‹_›

/-- Every operand is read, also where the expression has no place for it. -/
theorem exists_read_of_mem_items {path : Path} {position : Nat} {items : List Json}
    {operands : List Expression} (success : ofItems path position items = .ok operands)
    {item : Json} (member : item ∈ items) : ∃ path operand, ofJson path item = .ok operand := by
  induction items generalizing position operands with
  | nil => cases member
  | cons first items induction =>
      obtain ⟨operand, rest, rfl, firstRead, others⟩ := ofItems_cons_cases success
      rcases List.mem_cons.mp member with rfl | later
      · exact ⟨_, operand, firstRead⟩
      · exact induction others later

theorem exists_read_of_mem {path : Path} {node operand : Json} {expression : Expression}
    (success : ofJson path node = .ok expression) (member : operand ∈ node.expressionNodes) :
    ∃ path read, ofJson path operand = .ok read := by
  rw [Json.expressionNodes_eq] at member
  rcases List.mem_cons.mp member with rfl | below
  · exact ⟨path, expression, success⟩
  · obtain ⟨item, itemMember, inner⟩ := List.mem_flatMap.mp below
    obtain ⟨_, _, _, operandsRead, _⟩ := ofJson_cases success
    obtain ⟨itemPath, read, itemRead⟩ := exists_read_of_mem_items operandsRead itemMember
    exact exists_read_of_mem itemRead inner
  termination_by sizeOf node
  decreasing_by exact Json.sizeOf_lt_of_mem_itemsOf itemMember

/-- A node that no expression is named like. -/
def Unknown (node : Json) : Prop :=
  ∀ expression : Expression, node.kind? ≠ some expression.name

theorem not_unknown_of_mem {path : Path} {node operand : Json} {expression : Expression}
    (success : ofJson path node = .ok expression) (member : operand ∈ node.expressionNodes) :
    ¬Unknown operand := by
  intro unknown
  obtain ⟨_, read, operandRead⟩ := exists_read_of_mem success member
  exact unknown read (mirrors_of_ofJson operandRead).kind

end Expression

end Assessment
