import Assessment.Evaluation.Error
import Assessment.Value

/-!
# Collections

Operators that build, inspect and search containers.
-/

namespace Assessment.Collection

/-- The operands that contribute to a new container: all that are not NULL, with their
base types and scalars. -/
def parts (operands : List Value) : List (BaseType × List Scalar) :=
  (operands.filter fun operand => !operand.isNull).filterMap fun operand =>
    operand.baseType?.map fun baseType => (baseType, operand.scalars)

/-- The scalars of all operands in one container, `none` if there are only NULLs.  The
operands must share a base type. -/
def gather (operator : String) (operands : List Value) : Evaluated (Option Container) :=
  match parts operands with
  | [] => .ok none
  | (baseType, scalars) :: rest =>
      match rest.find? fun part => part.1 != baseType with
      | some stranger =>
          .error (.invalidOperand operator (.mixedBaseTypes baseType stranger.1))
      | none => .ok (some ⟨baseType, scalars ++ rest.flatMap (·.2)⟩)

/-- A container of the operands' scalars in the form that `wrap` gives it. -/
def collect (operator : String) (wrap : Container → Value) (operands : List Value) :
    Evaluated Value := do
  match ← gather operator operands with
  | some container => return wrap container
  | none => return .null

/-- Everything but containers holds nothing. -/
def size (operand : Value) : Nat :=
  match operand.container? with
  | some container => container.size
  | none => 0

def ofScalar? : Option Scalar → Value
  | some scalar => .single scalar
  | none => .null

/-- The scalar at a position, counted from one; NULL behind the end. -/
def index (container : Container) (position : Int64) : Evaluated Value :=
  if position.toInt < 1 then
    .error (.invalidAttribute "index" "n" (.belowOne position))
  else .ok (ofScalar? container.values[position.toInt.toNat - 1]?)

def incomparable (operator : String) (a b : Value) : EvalError :=
  .invalidOperand operator (.incomparable a.typeName b.typeName)

/-- Whether a scalar is among those of a container of its base type. -/
def member (scalar : Scalar) (operand : Value) : Evaluated Value :=
  if some scalar.baseType = operand.baseType? then
    .ok (.boolean (operand.container?.any fun container => container.contains scalar))
  else .error (incomparable "member" (.single scalar) operand)

/-- The container without the scalars that equal the given one. -/
def without (scalar : Scalar) (container : Container) : Container :=
  { container with values := container.values.filter fun value => !value.equal scalar }

def delete (scalar : Scalar) (operand : Value) : Evaluated Value :=
  if some scalar.baseType = operand.baseType? then
    match operand with
    | .multiple container => .ok (.multiple (without scalar container))
    | .ordered container => .ok (.ordered (without scalar container))
    | _ => .error (.misapplied "delete")
  else .error (incomparable "delete" (.single scalar) operand)

/-- Whether every scalar of a bag occurs in another one at least as often. -/
def includesBag (bag needle : Container) : Bool :=
  needle.values.all fun scalar => needle.count scalar ≤ bag.count scalar

/-- Whether a list begins with another one. -/
def startsWith : List Scalar → List Scalar → Bool
  | [], _ => true
  | _ :: _, [] => false
  | a :: needle, b :: rest => b.equal a && startsWith needle rest

/-- Whether a list occurs in another one as an unbroken run. -/
def includesRun (needle : List Scalar) : List Scalar → Bool
  | [] => needle.isEmpty
  | scalar :: rest => startsWith needle (scalar :: rest) || includesRun needle rest

/-- Whether the first container includes the second one: as a bag, or as a run if both
are ordered. -/
def contains (a b : Value) : Evaluated Value :=
  if a.baseType?.isSome ∧ a.baseType? = b.baseType? then
    match a, b with
    | .multiple bag, .multiple needle => .ok (.boolean (includesBag bag needle))
    | .ordered sequence, .ordered needle =>
        .ok (.boolean (includesRun needle.values sequence.values))
    | _, _ => .error (incomparable "contains" a b)
  else .error (incomparable "contains" a b)

/-- The greatest size that is told apart in messages. -/
def greatestSize : Nat := 18446744073709551615

/-- The operands' scalars again and again, at most `limit` of them. -/
def replicate (limit : Nat) (count : Int64) (operands : List Value) : Evaluated Value :=
  if count.toInt < 1 then .ok .null
  else do
    match ← gather "repeat" operands with
    | none => return .null
    | some once =>
        let requested := min (count.toInt.toNat * once.size) greatestSize
        if limit < requested then .error (.containerTooLarge "repeat" requested limit)
        else
          return .ordered
            ⟨once.baseType, (List.replicate count.toInt.toNat once.values).flatten⟩

end Assessment.Collection
