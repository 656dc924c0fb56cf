import Assessment.CharacterSet

/-!
# Runs of case mappings

Capital and small letters of most scripts stand in blocks or take turns.  A mapping
between them is therefore written as runs: characters at equal distances, whose images
all lie equally far away.
-/

namespace Assessment.Text

/-- Characters from `first` to `last`, `stride` apart, whose image lies at the
distance `shift`. -/
structure CaseRun where
  first : Nat
  last : Nat
  stride : Nat
  shift : Int
  deriving Repr

namespace CaseRun

def covers (run : CaseRun) (code : Nat) : Bool :=
  run.first ≤ code && code ≤ run.last && (code - run.first) % run.stride == 0

/-- Where a run takes one of its code points. -/
def imageOf (run : CaseRun) (code : Nat) : Nat :=
  ((code : Int) + run.shift).toNat

/-- The code points of a run, each with its image. -/
def pairs (run : CaseRun) : List (Nat × Nat) :=
  (List.range ((run.last - run.first) / run.stride + 1)).map fun index =>
    let code := run.first + index * run.stride
    (code, run.imageOf code)

/-- Reads runs written as gap, number of further members, stride, and distance plus
200000; `last` is the end of the run before. -/
def ofList (last : Nat) : List Nat → List CaseRun
  | gap :: further :: stride :: shift :: rest =>
      let first := last + gap
      ⟨first, first + further * stride, stride, (shift : Int) - 200000⟩ ::
        ofList (first + further * stride) rest
  | _ => []

/-- The runs that are written in several lines. -/
def ofLines (lines : List String) : List CaseRun :=
  ofList 0 (CharacterSet.numbers lines)

/-- The image of a character under a list of runs; a character outside of all of
them stays as it is. -/
def image (runs : List CaseRun) (c : Char) : Char :=
  match runs.find? (·.covers c.toNat) with
  | some run => Char.ofNat (run.imageOf c.toNat)
  | none => c

end CaseRun

end Assessment.Text
