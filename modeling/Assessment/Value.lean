import Assessment.Dictionary
import Assessment.Scalar

/-!
# Values

A value is NULL, a single scalar, a container of scalars of one base type (a bag or a
sequence), or a record of named scalars.  `Value.equal` compares them, and
`Value.WellFormed` and `Value.Conforms` say when a value has a shape.
-/

namespace Assessment

/-- The scalars of a multiple or ordered value, with the base type they share. -/
structure Container where
  baseType : BaseType
  values : List Scalar
  deriving DecidableEq, Repr

namespace Container

def empty (baseType : BaseType) : Container :=
  ⟨baseType, []⟩

/-- Adds a scalar at the end; its base type must be that of the container. -/
def push (container : Container) (scalar : Scalar) : Except ModelError Container :=
  if scalar.baseType = container.baseType then
    .ok { container with values := container.values ++ [scalar] }
  else .error (.containerMismatch container.baseType scalar.baseType)

/-- A container of the given scalars.  The first one of another base type is the
error. -/
def ofList (baseType : BaseType) (values : List Scalar) : Except ModelError Container :=
  match values.find? (fun scalar => scalar.baseType != baseType) with
  | some stranger => .error (.containerMismatch baseType stranger.baseType)
  | none => .ok ⟨baseType, values⟩

def size (container : Container) : Nat :=
  container.values.length

def isEmpty (container : Container) : Bool :=
  container.values.isEmpty

def contains (container : Container) (scalar : Scalar) : Bool :=
  container.values.any fun value => value.equal scalar

def count (container : Container) (scalar : Scalar) : Nat :=
  container.values.countP fun value => value.equal scalar

/-- Equality of bags: the same number of scalars, and each scalar of the first one
occurs in both equally often. -/
def bagEqual (a b : Container) : Bool :=
  a.baseType == b.baseType && a.size == b.size &&
    a.values.all fun value => a.count value == b.count value

/-- Equality of lists of scalars, place by place. -/
def listEqual : List Scalar → List Scalar → Bool
  | [], [] => true
  | a :: as, b :: bs => a.equal b && listEqual as bs
  | _, _ => false

/-- Equality of sequences. -/
def sequenceEqual (a b : Container) : Bool :=
  a.baseType == b.baseType && listEqual a.values b.values

/-- All scalars have the base type of the container. -/
def Homogeneous (container : Container) : Prop :=
  ∀ scalar ∈ container.values, scalar.baseType = container.baseType

end Container

/-- Named scalars.  A field that is not there reads as NULL. -/
abbrev Record := Dictionary Scalar

namespace Record

/-- Equality of records: the same names with equal scalars. -/
def entriesEqual : List (String × Scalar) → List (String × Scalar) → Bool
  | [], [] => true
  | (name, a) :: as, (other, b) :: bs => name == other && a.equal b && entriesEqual as bs
  | _, _ => false

def equal (a b : Record) : Bool :=
  entriesEqual a.entries b.entries

def text (record : Record) : String :=
  let fields := record.entries.map fun (name, scalar) => name ++ ": " ++ scalar.text
  "\x7b" ++ "; ".intercalate fields ++ "\x7d"

end Record

inductive Value where
  | null
  | single (scalar : Scalar)
  | multiple (container : Container)
  | ordered (container : Container)
  | record (fields : Record)
  deriving DecidableEq

instance : Inhabited Value :=
  ⟨.null⟩

namespace Value

def boolean (value : Bool) : Value :=
  .single (.boolean value)

def integer (value : Int64) : Value :=
  .single (.integer value)

def float (value : Float) : Value :=
  .single (.float value)

def string (text : String) : Value :=
  .single (.string text)

/-- The cardinality of a value that is not `null`. -/
def cardinality? : Value → Option Cardinality
  | .null => none
  | .single _ => some .single
  | .multiple _ => some .multiple
  | .ordered _ => some .ordered
  | .record _ => some .record

/-- The base type of single values and containers. -/
def baseType? : Value → Option BaseType
  | .single scalar => some scalar.baseType
  | .multiple container | .ordered container => some container.baseType
  | .null | .record _ => none

/-- NULL in the sense of assessment: `null` itself, empty containers and records, and
the empty string. -/
def isNull : Value → Bool
  | .null => true
  | .single (.string text) => text.isEmpty
  | .single _ => false
  | .multiple container | .ordered container => container.isEmpty
  | .record fields => fields.isEmpty

/-- Whether the value is the single boolean `true`. -/
def isTrue : Value → Bool
  | .single (.boolean true) => true
  | _ => false

def single? : Value → Option Scalar
  | .single scalar => some scalar
  | _ => none

def container? : Value → Option Container
  | .multiple container | .ordered container => some container
  | _ => none

def record? : Value → Option Record
  | .record fields => some fields
  | _ => none

/-- The scalars of a single value or container, in order. -/
def scalars : Value → List Scalar
  | .single scalar => [scalar]
  | .multiple container | .ordered container => container.values
  | .null | .record _ => []

/-- The shape of a value, as error messages name it. -/
def typeName (value : Value) : String :=
  match value.cardinality?, value.baseType? with
  | none, _ => "NULL"
  | some cardinality, some baseType => cardinality.name ++ " " ++ baseType.name
  | some cardinality, none => cardinality.name

/-- Values are equal if they have the same cardinality and equal contents. -/
def equal : Value → Value → Bool
  | .null, .null => true
  | .single a, .single b => a.equal b
  | .multiple a, .multiple b => a.bagEqual b
  | .ordered a, .ordered b => a.sequenceEqual b
  | .record a, .record b => Record.equal a b
  | _, _ => false

def text : Value → String
  | .null => "NULL"
  | .single scalar => scalar.text
  | .multiple container | .ordered container =>
      "[" ++ "; ".intercalate (container.values.map Scalar.text) ++ "]"
  | .record fields => Record.text fields

/-- Containers hold only scalars of their base type. -/
def WellFormed : Value → Prop
  | .multiple container | .ordered container => container.Homogeneous
  | .null | .single _ | .record _ => True

/-- The value is `null`, or has exactly the declared cardinality and base type. -/
def Conforms (type : DeclaredType) : Value → Prop
  | .null => True
  | .single scalar => type = .single scalar.baseType
  | .multiple container => type = .multiple container.baseType ∧ container.Homogeneous
  | .ordered container => type = .ordered container.baseType ∧ container.Homogeneous
  | .record _ => type = .record

end Value

end Assessment
