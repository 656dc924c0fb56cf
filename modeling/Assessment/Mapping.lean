import Assessment.Text.LowerCase
import Assessment.Value

/-!
# Scoring tables

A response variable can map its values, or the areas its points hit, to scores; an
outcome variable can have a table that turns a number into its value.
-/

namespace Assessment

/-- Optional bounds of a score. -/
structure Bounds where
  lower : Option Float
  upper : Option Float
  deriving DecidableEq, Repr

namespace Bounds

def none : Bounds := ⟨.none, .none⟩

/-- The score brought between the bounds, first above the lower one. -/
def clamp (bounds : Bounds) (score : Float) : Float :=
  let raised := match bounds.lower with
    | some lower => Real64.greater score lower
    | .none => score
  match bounds.upper with
  | some upper => Real64.lesser raised upper
  | .none => raised

end Bounds

/-- A response value and its score. -/
structure MapEntry where
  key : Scalar
  score : Float
  caseSensitive : Bool
  deriving DecidableEq, Repr

namespace MapEntry

/-- Whether a value has the key of the entry.  Text keys may ignore case. -/
def covers (entry : MapEntry) (value : Scalar) : Bool :=
  if entry.caseSensitive then entry.key.equal value
  else
    match entry.key.string?, value.string? with
    | some key, some text =>
        if entry.key.baseType == value.baseType then
          Text.lower key.toList == Text.lower text.toList
        else entry.key.equal value
    | _, _ => entry.key.equal value

end MapEntry

/-- Scores of response values. -/
structure Mapping where
  bounds : Bounds
  default : Float
  entries : List MapEntry
  deriving DecidableEq, Repr

namespace Mapping

/-- The first entry that covers a value, with its position. -/
def entryFor? (mapping : Mapping) (value : Scalar) : Option (MapEntry × Nat) :=
  mapping.entries.zipIdx.find? fun (entry, _) => entry.covers value

/-- What a value adds to the score, given the positions of the entries that earlier
values have used, and those positions with its own.  An entry scores once, and a value
without entry scores the default. -/
def contribution (mapping : Mapping) (used : List Nat) (value : Scalar) :
    Option Float × List Nat :=
  match mapping.entryFor? value with
  | some (entry, position) =>
      if used.contains position then (none, used) else (some entry.score, position :: used)
  | none => (some mapping.default, used)

/-- Adds the contributions of values to a total, leaving out values equal to one
already seen. -/
def total (mapping : Mapping) (seen : List Scalar) (used : List Nat) (sum : Float) :
    List Scalar → Float
  | [] => sum
  | value :: rest =>
      if seen.any (fun earlier => earlier.equal value) then
        total mapping seen used sum rest
      else
        match mapping.contribution used value with
        | (some score, used) => total mapping (value :: seen) used (sum + score) rest
        | (none, used) => total mapping (value :: seen) used sum rest

/-- The score of a list of response values; no values score the default, which the
bounds do not touch. -/
def score (mapping : Mapping) (values : List Scalar) : Float :=
  if values.isEmpty then mapping.default
  else mapping.bounds.clamp (mapping.total [] [] 0.0 values)

end Mapping

/-- An area and its score. -/
structure AreaEntry where
  area : Area
  score : Float
  deriving DecidableEq, Repr

/-- Scores of areas. -/
structure AreaMapping where
  bounds : Bounds
  default : Float
  entries : List AreaEntry
  deriving DecidableEq, Repr

/-- The sum of floats from the left.  It starts from minus zero, which adding any
float leaves that float. -/
def sumFloats (values : List Float) : Float :=
  values.foldl (· + ·) (-0.0)

namespace AreaMapping

/-- The score of a set of points: each area that holds at least one of them scores
once, and the default counts if none does. -/
def score (mapping : AreaMapping) (points : List Point) : Float :=
  let hits := mapping.entries.filter fun entry => points.any entry.area.contains
  let sum := if hits.isEmpty then mapping.default else sumFloats (hits.map (·.score))
  mapping.bounds.clamp sum

end AreaMapping

/-- An integer and the value it looks up. -/
structure MatchEntry where
  source : Int64
  target : Scalar
  deriving DecidableEq, Repr

/-- The lower end of a band of numbers and the value it looks up. -/
structure InterpolationEntry where
  source : Float
  includeBoundary : Bool
  target : Scalar
  deriving DecidableEq, Repr

namespace InterpolationEntry

def covers (entry : InterpolationEntry) (number : Float) : Bool :=
  if entry.includeBoundary then entry.source ≤ number else entry.source < number

end InterpolationEntry

/-- A table that turns a number into the value of an outcome. -/
inductive LookupTable where
  | exact (default : Option Scalar) (entries : List MatchEntry)
  | interpolation (default : Option Scalar) (entries : List InterpolationEntry)
  deriving DecidableEq, Repr

namespace LookupTable

def default : LookupTable → Option Scalar
  | .exact default _ | .interpolation default _ => default

/-- The target of the first entry that fits, or else the default.  The outer option
is `none` if the source has no type that the table looks up. -/
def lookup? (table : LookupTable) (source : Scalar) : Option (Option Scalar) :=
  match table with
  | .exact default entries =>
      source.integer?.map fun key =>
        match entries.find? (fun entry => entry.source == key) with
        | some entry => some entry.target
        | none => default
  | .interpolation default entries =>
      source.number?.map fun key =>
        match entries.find? (fun entry => entry.covers key) with
        | some entry => some entry.target
        | none => default

end LookupTable

end Assessment
