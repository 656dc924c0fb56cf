import Assessment.Mapping
import Assessment.Proofs.MachineWord
import Mathlib.Algebra.Order.Ring.Int

/-!
# Coordinates read by position

Areas read their coordinates by position, circles compute with wide words, and polygons
walk around their vertices.  Here each of these steps may fault.  None does in an area
that was made of a shape and the coordinates that this shape demands.
-/

namespace Assessment

namespace Area

/-- The square of a distance, `none` if one of its parts overflows. -/
def squaredDistance? (dx dy : Int) : Option Int := do
  let squareX ← Word.wide.hold? (dx * dx)
  let squareY ← Word.wide.hold? (dy * dy)
  Word.wide.hold? (squareX + squareY)

/-- Whether a circle holds a point, in wide words.  The square of the distance is checked:
if it overflows the point is outside, and there is no fault. -/
def insideCircle? (centreX centreY radius x y : Int) : Option Bool := do
  let dx ← Word.wide.hold? (x - centreX)
  let dy ← Word.wide.hold? (y - centreY)
  match squaredDistance? dx dy with
  | some distance => do
      let square ← Word.wide.hold? (radius * radius)
      return decide (distance ≤ square)
  | none => return false

/-- Goes around a polygon from the given positions on, each with the one before it, and
turns the answer at each edge that is crossed. -/
def insideFrom? (vertices : List Point) (point : Point) (previous : Nat) (inside : Bool) :
    List Nat → Option Bool
  | [] => some inside
  | position :: positions => do
      let vertex ← vertices[position]?
      let before ← vertices[previous]?
      insideFrom? vertices point position (inside != crosses point vertex before) positions

/-- The position before a given one; subtracting from zero is a fault. -/
def predecessor? : Nat → Option Nat
  | 0 => none
  | position + 1 => some position

def insidePoly? (vertices : List Point) (point : Point) : Option Bool := do
  let last ← predecessor? vertices.length
  insideFrom? vertices point last false (List.range vertices.length)

/-- Whether the area of a shape holds a point.  The coordinates are read by position. -/
def holds? (shape : Shape) (coordinates : List Int64) (point : Point) : Option Bool :=
  match shape with
  | .everywhere => some true
  | .rect => do
      let x1 ← coordinates[0]?
      let x2 ← coordinates[2]?
      let y1 ← coordinates[1]?
      let y2 ← coordinates[3]?
      return insideRect x1.toInt y1.toInt x2.toInt y2.toInt point.x.toInt point.y.toInt
  | .circle => do
      let x ← coordinates[0]?
      let y ← coordinates[1]?
      let radius ← coordinates[2]?
      insideCircle? x.toInt y.toInt radius.toInt point.x.toInt point.y.toInt
  | .ellipse => do
      let radiusX ← coordinates[2]?
      let radiusY ← coordinates[3]?
      let x ← coordinates[0]?
      let y ← coordinates[1]?
      return insideEllipse (Real64.ofInteger x) (Real64.ofInteger y) (Real64.ofInteger radiusX)
        (Real64.ofInteger radiusY) (Real64.ofInteger point.x) (Real64.ofInteger point.y)
  | .poly => do
      let vertices ← points? coordinates
      insidePoly? vertices point

/-! ### Circles -/

theorem mul_self_le {n bound : Int} (lower : -bound ≤ n) (upper : n ≤ bound) :
    n * n ≤ bound * bound := by
  have magnitude : n.natAbs ≤ bound.natAbs := by omega
  rw [← Int.natAbs_mul_self, ← Int.natAbs_mul_self]
  exact Int.ofNat_le.mpr (Nat.mul_le_mul magnitude magnitude)

theorem holds_difference {a b : Int} (first : Word.long.Holds a) (second : Word.long.Holds b) :
    Word.wide.Holds (a - b) := by
  simp only [Word.Holds, Word.long, Word.wide, Integer.least, Integer.greatest] at first second ⊢
  omega

theorem holds_square {n : Int} (holds : Word.long.Holds n) : Word.wide.Holds (n * n) := by
  simp only [Word.Holds, Word.long, Word.wide, Integer.least, Integer.greatest] at holds ⊢
  have least := mul_self_nonneg n
  have greatest : n * n ≤ 9223372036854775808 * 9223372036854775808 :=
    mul_self_le (by omega) (by omega)
  omega

/-- The parts are not negative, so that the sum overflows if one of them does. -/
theorem squaredDistance?_eq_hold? (dx dy : Int) :
    squaredDistance? dx dy = Word.wide.hold? (dx * dx + dy * dy) := by
  have squareX := mul_self_nonneg dx
  have squareY := mul_self_nonneg dy
  by_cases holds : Word.wide.Holds (dx * dx + dy * dy)
  · have holdsX : Word.wide.Holds (dx * dx) := by
      simp only [Word.Holds, Word.wide] at holds ⊢
      omega
    have holdsY : Word.wide.Holds (dy * dy) := by
      simp only [Word.Holds, Word.wide] at holds ⊢
      omega
    simp only [squaredDistance?, Word.hold?_eq_some holdsX, Word.hold?_eq_some holdsY,
      Option.bind_eq_bind, Option.bind_some]
  · rw [Word.hold?_eq_none holds]
    unfold squaredDistance? Word.hold?
    split_ifs <;> simp [holds]

/-- What overflows is more than the square of any radius. -/
theorem lt_of_squaredDistance?_eq_none {dx dy radius : Int} (holdsRadius : Word.long.Holds radius)
    (overflows : squaredDistance? dx dy = none) : radius * radius < dx * dx + dy * dy := by
  have square := holds_square holdsRadius
  have squareX := mul_self_nonneg dx
  have squareY := mul_self_nonneg dy
  rw [squaredDistance?_eq_hold?] at overflows
  by_contra within
  have holds : Word.wide.Holds (dx * dx + dy * dy) := by
    simp only [Word.Holds, Word.wide] at square ⊢
    omega
  rw [Word.hold?_eq_some holds] at overflows
  cases overflows

theorem eq_of_squaredDistance?_eq_some {dx dy distance : Int}
    (found : squaredDistance? dx dy = some distance) : distance = dx * dx + dy * dy := by
  rw [squaredDistance?_eq_hold?, Word.hold?] at found
  split at found
  next => exact (Option.some.inj found).symm
  next => cases found

/-- No step faults, and the answer is that of the unbounded integers. -/
theorem insideCircle?_eq_some {centreX centreY radius x y : Int}
    (holdsX : Word.long.Holds x) (holdsCentreX : Word.long.Holds centreX)
    (holdsY : Word.long.Holds y) (holdsCentreY : Word.long.Holds centreY)
    (holdsRadius : Word.long.Holds radius) :
    insideCircle? centreX centreY radius x y =
      some (insideCircle centreX centreY radius x y) := by
  have square := holds_square holdsRadius
  simp only [insideCircle?, Word.hold?_eq_some (holds_difference holdsX holdsCentreX),
    Word.hold?_eq_some (holds_difference holdsY holdsCentreY), Option.bind_eq_bind,
    Option.bind_some, Word.hold?_eq_some square]
  cases found : squaredDistance? (x - centreX) (y - centreY) with
  | some distance =>
      rw [eq_of_squaredDistance?_eq_some found]
      rfl
  | none =>
      have outside := lt_of_squaredDistance?_eq_none holdsRadius found
      rw [insideCircle, decide_eq_false (Int.not_le.mpr outside)]
      rfl

/-! ### Polygons -/

/-- One more edge that is crossed turns the parity of their number. -/
theorem bne_parity_succ (inside crossed : Bool) (count : Nat) :
    ((inside != crossed) != (count % 2 == 1)) =
      (inside != ((count + if crossed then 1 else 0) % 2 == 1)) := by
  rcases Nat.mod_two_eq_zero_or_one count with even | odd
  · cases inside <;> cases crossed <;> simp [Nat.add_mod, even]
  · cases inside <;> cases crossed <;> simp [Nat.add_mod, odd]

/-- The same way around a polygon with any test of an edge. -/
def walkFrom? (test : Point → Point → Bool) (vertices : List Point) (previous : Nat)
    (inside : Bool) : List Nat → Option Bool
  | [] => some inside
  | position :: positions => do
      let vertex ← vertices[position]?
      let before ← vertices[previous]?
      walkFrom? test vertices position (inside != test vertex before) positions

/-- The whole way around, from the edge between the last vertex and the first one. -/
def walk? (test : Point → Point → Bool) (vertices : List Point) : Option Bool := do
  let last ← predecessor? vertices.length
  walkFrom? test vertices last false (List.range vertices.length)

theorem insideFrom?_eq_walkFrom? (vertices : List Point) (point : Point) (previous : Nat)
    (inside : Bool) (positions : List Nat) :
    insideFrom? vertices point previous inside positions =
      walkFrom? (crosses point) vertices previous inside positions := by
  induction positions generalizing previous inside with
  | nil => rfl
  | cons position positions induction => simp only [insideFrom?, walkFrom?, induction]

theorem insidePoly?_eq_walk? (vertices : List Point) (point : Point) :
    insidePoly? vertices point = walk? (crosses point) vertices := by
  simp only [insidePoly?, walk?, insideFrom?_eq_walkFrom?]

/-- The walk along the vertices that are left counts the edges that pass the test. -/
theorem walkFrom?_eq_some (test : Point → Point → Bool) {passed left : List Point}
    {previous : Nat} {before : Point} (inside : Bool)
    (found : (passed ++ left)[previous]? = some before) :
    walkFrom? test (passed ++ left) previous inside (List.range' passed.length left.length) =
      some (inside != ((left.zip (before :: left)).countP
        (fun (vertex, previous) => test vertex previous) % 2 == 1)) := by
  induction left generalizing passed previous before inside with
  | nil => simp [walkFrom?]
  | cons vertex left induction =>
      have here : (passed ++ vertex :: left)[passed.length]? = some vertex := by simp
      have further := @induction (passed ++ [vertex]) passed.length vertex
        (inside != test vertex before) (by simp)
      simp only [List.append_assoc, List.singleton_append, List.length_append,
        List.length_singleton] at further
      simp only [List.length_cons, List.range'_succ, walkFrom?, here, found,
        Option.bind_eq_bind, Option.bind_some, further, List.zip_cons_cons, List.countP_cons,
        bne_parity_succ]

theorem walk?_eq_some (test : Point → Point → Bool) {vertices : List Point}
    (nonempty : vertices ≠ []) :
    walk? test vertices =
      some ((edges vertices).countP (fun (vertex, previous) => test vertex previous) % 2 == 1) := by
  obtain ⟨first, others, rfl⟩ := List.exists_cons_of_ne_nil nonempty
  have last : (first :: others).getLast? = some ((first :: others).getLast nonempty) :=
    List.getLast?_eq_some_getLast nonempty
  have found : ([] ++ first :: others)[others.length]? =
      some ((first :: others).getLast nonempty) := by
    rw [← last, List.getLast?_eq_getElem?, List.nil_append, List.length_cons, Nat.add_sub_cancel]
  have walked := walkFrom?_eq_some test false found
  rw [List.nil_append, List.length_nil, ← List.range_eq_range', Bool.false_bne] at walked
  rw [walk?, List.length_cons, predecessor?, Option.bind_eq_bind, Option.bind_some,
    ← List.length_cons, walked, edges, last]

theorem insidePoly?_eq_some {vertices : List Point} (nonempty : vertices ≠ []) (point : Point) :
    insidePoly? vertices point = some (insidePoly vertices point) := by
  rw [insidePoly?_eq_walk?, walk?_eq_some _ nonempty, insidePoly]

/-! ### Shapes -/

/-- An area is made if its own shape and coordinates give it. -/
def Made (area : Area) : Prop :=
  make area.shape area.coordinates = .ok area

theorem points?_coordinates (vertices : List Point) :
    points? (poly vertices).coordinates = some vertices := by
  induction vertices with
  | nil => rfl
  | cons vertex vertices induction =>
      simp only [coordinates] at induction
      simp only [coordinates, List.flatMap_cons, List.cons_append, List.nil_append, points?,
        induction, Option.map_some]

theorem coordinates_of_points? {coordinates : List Int64} {vertices : List Point}
    (found : points? coordinates = some vertices) :
    (poly vertices).coordinates = coordinates := by
  induction coordinates using points?.induct generalizing vertices with
  | case1 => cases found; rfl
  | case2 => cases found
  | case3 x y rest induction =>
      obtain ⟨others, foundOthers, rfl⟩ := Option.map_eq_some_iff.mp found
      rw [← induction foundOthers]
      rfl

theorem made_of_make {shape : Shape} {coordinates : List Int64} {area : Area}
    (success : make shape coordinates = .ok area) : area.Made := by
  suffices parts : area.shape = shape ∧ area.coordinates = coordinates by
    rw [Made, parts.1, parts.2, success]
  unfold make at success
  split at success
  next => cases success; exact ⟨rfl, rfl⟩
  next => cases success; exact ⟨rfl, rfl⟩
  next => cases success
  next => cases success; exact ⟨rfl, rfl⟩
  next => cases success
  next =>
    split at success
    next => cases success
    next => cases success; exact ⟨rfl, rfl⟩
  next => cases success
  next =>
    split at success
    next vertices found =>
      split at success
      next => cases success; exact ⟨rfl, coordinates_of_points? found⟩
      next => cases success
    next => cases success

/-- An area that is made has all the coordinates that its shape reads, and a polygon has a
last vertex. -/
theorem holds?_eq_some {area : Area} (made : area.Made) (point : Point) :
    holds? area.shape area.coordinates point = some (area.contains point) := by
  cases area with
  | everywhere | rect | ellipse => rfl
  | circle x y radius =>
      exact insideCircle?_eq_some (Word.long_holds _) (Word.long_holds _) (Word.long_holds _)
        (Word.long_holds _) (Word.long_holds _)
  | poly vertices =>
      have nonempty : vertices ≠ [] := by
        rintro rfl
        cases made
      rw [shape, holds?, points?_coordinates, Option.bind_eq_bind, Option.bind_some,
        insidePoly?_eq_some nonempty, contains]

/-- Whether one of the points lies in the area. -/
def hits? (area : Area) : List Point → Option Bool
  | [] => some false
  | point :: points => do
      if ← holds? area.shape area.coordinates point then return true
      else hits? area points

theorem hits?_eq_some {area : Area} (made : area.Made) (points : List Point) :
    hits? area points = some (points.any area.contains) := by
  induction points with
  | nil => rfl
  | cons point points induction =>
      rw [hits?, holds?_eq_some made, Option.bind_eq_bind, Option.bind_some, List.any_cons,
        induction]
      cases area.contains point <;> rfl

end Area

namespace AreaMapping

/-- The entries whose areas hold one of the points. -/
def hitEntries? (points : List Point) : List AreaEntry → Option (List AreaEntry)
  | [] => some []
  | entry :: entries => do
      let hit ← entry.area.hits? points
      let hits ← hitEntries? points entries
      return if hit then entry :: hits else hits

def score? (mapping : AreaMapping) (points : List Point) : Option Float := do
  let hits ← hitEntries? points mapping.entries
  let sum := if hits.isEmpty then mapping.default else sumFloats (hits.map (·.score))
  return mapping.bounds.clamp sum

/-- All areas of the mapping are made. -/
def Made (mapping : AreaMapping) : Prop :=
  ∀ entry ∈ mapping.entries, entry.area.Made

theorem hitEntries?_eq_some {points : List Point} {entries : List AreaEntry}
    (made : ∀ entry ∈ entries, entry.area.Made) :
    hitEntries? points entries =
      some (entries.filter fun entry => points.any entry.area.contains) := by
  induction entries with
  | nil => rfl
  | cons entry entries induction =>
      obtain ⟨first, rest⟩ := List.forall_mem_cons.mp made
      rw [hitEntries?, Area.hits?_eq_some first, induction rest, List.filter_cons]
      rfl

theorem score?_eq_some {mapping : AreaMapping} (made : mapping.Made) (points : List Point) :
    mapping.score? points = some (mapping.score points) := by
  rw [score?, hitEntries?_eq_some made]
  rfl

end AreaMapping

end Assessment
