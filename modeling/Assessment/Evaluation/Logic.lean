import Assessment.Value

/-!
# Three-valued logic

Truth is true, false or unknown (`none`); NULL operands are unknown.  Each connective
answers as soon as the known operands settle the result whatever the unknown ones
are, and is unknown otherwise.
-/

namespace Assessment

abbrev Truth := Option Bool

namespace Truth

/-- Goes through operands and stops at the first one that is `decisive`.  If there is
none, the result is unknown if an operand was, of those here or, as `unknown` says, of
those before. -/
def scan (decisive unknown : Bool) : List Truth → Truth
  | [] => if unknown then none else some !decisive
  | none :: operands => scan decisive true operands
  | some truth :: operands =>
      if truth = decisive then some decisive else scan decisive unknown operands

/-- False dominates, then unknown. -/
def and (operands : List Truth) : Truth :=
  scan false false operands

/-- True dominates, then unknown. -/
def or (operands : List Truth) : Truth :=
  scan true false operands

def not (operand : Truth) : Truth :=
  operand.map Bool.not

theorem scan_eq (decisive unknown : Bool) (operands : List Truth) :
    scan decisive unknown operands =
      if some decisive ∈ operands then some decisive
      else if unknown = true ∨ none ∈ operands then none
      else some !decisive := by
  induction operands generalizing unknown with
  | nil => simp [scan]
  | cons operand operands induction =>
      cases operand with
      | none => simp [scan, induction]
      | some truth =>
          rw [scan]
          by_cases settled : truth = decisive
          · simp [settled]
          · simp [settled, induction, Ne.symm settled]

theorem and_eq (operands : List Truth) :
    and operands =
      if some false ∈ operands then some false else if none ∈ operands then none
      else some true := by
  simp [and, scan_eq]

theorem or_eq (operands : List Truth) :
    or operands =
      if some true ∈ operands then some true else if none ∈ operands then none
      else some false := by
  simp [or, scan_eq]

/-- The number of operands that are true. -/
def trueCount (operands : List Truth) : Nat :=
  operands.count (some true)

/-- The number of unknown operands. -/
def unknownCount (operands : List Truth) : Nat :=
  operands.count none

/-- Whether the number of true operands lies between two bounds.  It is unknown if the
unknown operands decide. -/
def anyN (least most : Int) (operands : List Truth) : Truth :=
  let fewest : Int := trueCount operands
  let greatest : Int := trueCount operands + unknownCount operands
  if most < fewest || greatest < least then some false
  else if least ≤ fewest && greatest ≤ most then some true
  else none

end Truth

namespace Value

/-- The truth of a value; everything but a single boolean is unknown. -/
def truth (value : Value) : Truth :=
  value.single?.bind Scalar.boolean?

def ofTruth : Truth → Value
  | some truth => .boolean truth
  | none => .null

end Value

end Assessment
