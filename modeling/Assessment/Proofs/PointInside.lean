import Assessment.Proofs.AreaAccess
import Mathlib.Algebra.Ring.Parity
import Mathlib.Data.List.Rotate

/-!
# Points inside areas

Circles and rectangles are exact at every coordinate: machine words do not hold all that is
computed for a circle, but what overflows is outside.  A polygon has no first vertex: going
around it from another one crosses the same edges, whatever decides that an edge is crossed.
-/

namespace Assessment

namespace Area

variable {coordinates : List Int64} {area : Area} {vertices rotated : List Point}
  {test : Point → Point → Bool}

/-! ## Circles and rectangles -/

theorem exists_of_make_circle (made : make .circle coordinates = .ok area) :
    ∃ x y radius, coordinates = [x, y, radius] ∧ 0 ≤ radius.toInt ∧
      area = .circle x y radius := by
  rcases coordinates with _ | ⟨x, _ | ⟨y, _ | ⟨radius, _ | ⟨_, _⟩⟩⟩⟩
  case cons.cons.cons.nil =>
    simp only [make] at made
    split at made
    next => cases made
    next nonneg =>
      cases made
      exact ⟨x, y, radius, rfl, Int.not_lt.mp nonneg, rfl⟩
  all_goals cases made

theorem exists_of_make_rect (made : make .rect coordinates = .ok area) :
    ∃ x1 y1 x2 y2, coordinates = [x1, y1, x2, y2] ∧ area = .rect x1 y1 x2 y2 := by
  rcases coordinates with _ | ⟨x1, _ | ⟨y1, _ | ⟨x2, _ | ⟨y2, _ | ⟨_, _⟩⟩⟩⟩⟩
  case cons.cons.cons.cons.nil =>
    cases made
    exact ⟨x1, y1, x2, y2, rfl, rfl⟩
  all_goals cases made

theorem insideCircle_iff {centreX centreY radius x y : Int} :
    insideCircle centreX centreY radius x y = true ↔
      (x - centreX) ^ 2 + (y - centreY) ^ 2 ≤ radius ^ 2 := by
  simp only [insideCircle, decide_eq_true_eq, sq]

theorem insideRect_iff {x1 y1 x2 y2 x y : Int} :
    insideRect x1 y1 x2 y2 x y = true ↔
      (min x1 x2 ≤ x ∧ x ≤ max x1 x2) ∧ min y1 y2 ≤ y ∧ y ≤ max y1 y2 := by
  simp only [insideRect, Bool.and_eq_true, decide_eq_true_eq, and_assoc]

/-- The corners may be given in any order. -/
theorem insideRect_swap_x (x1 y1 x2 y2 x y : Int) :
    insideRect x2 y1 x1 y2 x y = insideRect x1 y1 x2 y2 x y := by
  rw [insideRect, insideRect, Int.min_comm x2, Int.max_comm x2]

theorem insideRect_swap_y (x1 y1 x2 y2 x y : Int) :
    insideRect x1 y2 x2 y1 x y = insideRect x1 y1 x2 y2 x y := by
  rw [insideRect, insideRect, Int.min_comm y2, Int.max_comm y2]

/-- A circle holds the points whose distance from its centre is at most its radius, in the
unbounded integers: machine words give this answer, and say that a point is outside if its
distance overflows.  A rectangle holds the points between its corners, borders included,
whichever corners they are. -/
theorem circles_and_rects_exact (coordinates : List Int64) (area : Area) (point : Point) :
    (make .circle coordinates = .ok area →
      ∃ x y radius : Int64, coordinates = [x, y, radius] ∧ 0 ≤ radius.toInt ∧
        holds? .circle coordinates point = some (area.contains point) ∧
        (area.contains point = true ↔
          (point.x.toInt - x.toInt) ^ 2 + (point.y.toInt - y.toInt) ^ 2 ≤ radius.toInt ^ 2) ∧
        (squaredDistance? (point.x.toInt - x.toInt) (point.y.toInt - y.toInt) = none →
          area.contains point = false)) ∧
      (make .rect coordinates = .ok area →
        ∃ x1 y1 x2 y2 : Int64, coordinates = [x1, y1, x2, y2] ∧
          holds? .rect coordinates point = some (area.contains point) ∧
          (area.contains point = true ↔
            (min x1.toInt x2.toInt ≤ point.x.toInt ∧ point.x.toInt ≤ max x1.toInt x2.toInt) ∧
              min y1.toInt y2.toInt ≤ point.y.toInt ∧
              point.y.toInt ≤ max y1.toInt y2.toInt) ∧
          ∀ corners ∈ [[x2, y2, x1, y1], [x2, y1, x1, y2], [x1, y2, x2, y1]],
            ∃ other, make .rect corners = .ok other ∧
              other.contains point = area.contains point) := by
  constructor
  · intro made
    have complete := made_of_make made
    obtain ⟨x, y, radius, rfl, nonneg, rfl⟩ := exists_of_make_circle made
    refine ⟨x, y, radius, rfl, nonneg, holds?_eq_some complete point, insideCircle_iff,
      fun overflows => ?_⟩
    have outside := lt_of_squaredDistance?_eq_none (Word.long_holds radius) overflows
    exact decide_eq_false (Int.not_le.mpr outside)
  · intro made
    have complete := made_of_make made
    obtain ⟨x1, y1, x2, y2, rfl, rfl⟩ := exists_of_make_rect made
    refine ⟨x1, y1, x2, y2, rfl, holds?_eq_some complete point, insideRect_iff, ?_⟩
    simp only [List.forall_mem_cons, List.not_mem_nil, false_implies, implies_true, and_true]
    exact ⟨⟨_, rfl, (insideRect_swap_x ..).trans (insideRect_swap_y ..)⟩,
      ⟨_, rfl, insideRect_swap_x ..⟩, ⟨_, rfl, insideRect_swap_y ..⟩⟩

/-- The farthest corner of the plane from a circle in the opposite one, a point on a border
as far away as possible, and a rectangle given by the corners that are not the first ones. -/
theorem circles_and_rects_exact_extreme :
    let least : Int64 := -9223372036854775808
    let greatest : Int64 := 9223372036854775807
    make .circle [least, least, greatest] = .ok (.circle least least greatest) ∧
      squaredDistance? (greatest.toInt - least.toInt) (greatest.toInt - least.toInt) = none ∧
      (circle least least greatest).contains ⟨greatest, greatest⟩ = false ∧
      (circle 0 0 greatest).contains ⟨0, -greatest⟩ = true ∧
      make .rect [greatest, least, 0, 7] = .ok (.rect greatest least 0 7) ∧
      (rect greatest least 0 7).contains ⟨0, least⟩ = true ∧
      ∃ other, make .rect [0, least, greatest, 7] = .ok other ∧
        other.contains ⟨0, least⟩ = true := by
  intro least greatest
  have far : make .circle [least, least, greatest] = .ok (.circle least least greatest) := rfl
  have huge : make .circle [0, 0, greatest] = .ok (.circle 0 0 greatest) := rfl
  have wide : make .rect [greatest, least, 0, 7] = .ok (.rect greatest least 0 7) := rfl
  have overflows :
      squaredDistance? (greatest.toInt - least.toInt) (greatest.toInt - least.toInt) = none := by
    decide
  obtain ⟨_, _, _, ⟨⟩, _, _, _, outside⟩ :=
    (circles_and_rects_exact _ _ ⟨greatest, greatest⟩).1 far
  obtain ⟨_, _, _, ⟨⟩, _, _, border, _⟩ := (circles_and_rects_exact _ _ ⟨0, -greatest⟩).1 huge
  obtain ⟨_, _, _, _, ⟨⟩, _, between, orders⟩ := (circles_and_rects_exact _ _ ⟨0, least⟩).2 wide
  have corner : (rect greatest least 0 7).contains ⟨0, least⟩ = true := between.mpr (by decide)
  obtain ⟨other, made, same⟩ := orders [0, least, greatest, 7] (by simp)
  exact ⟨far, overflows, outside overflows, border.mpr (by decide), wide, corner, other, made,
    same.trans corner⟩

/-! ## Polygons -/

/-- The vertices before those of a list are the list turned back by one place. -/
theorem edges_eq_zip (vertices : List Point) :
    edges vertices = vertices.zip (vertices.rotate (vertices.length - 1)) := by
  rcases List.eq_nil_or_concat' vertices with rfl | ⟨front, last, rfl⟩
  · rfl
  · have turned : (front ++ [last]).rotate ((front ++ [last]).length - 1) = last :: front := by
      rw [List.length_append, List.length_singleton, Nat.add_sub_cancel,
        List.rotate_append_length_eq, List.singleton_append]
    have zipped : (front ++ [last] ++ []).zip (last :: front ++ [last]) =
        (front ++ [last]).zip (last :: front) ++ [].zip [last] := List.zip_append (by simp)
    rw [List.append_nil, List.zip_nil_left, List.append_nil] at zipped
    rw [turned, edges, List.getLast?_concat]
    exact zipped

/-- Another first vertex is another first edge. -/
theorem edges_rotate (vertices : List Point) (shift : Nat) :
    edges (vertices.rotate shift) = (edges vertices).rotate shift := by
  have lengths : vertices.length = (vertices.rotate (vertices.length - 1)).length :=
    (List.length_rotate _ _).symm
  rw [edges_eq_zip, edges_eq_zip, List.length_rotate, List.rotate_rotate, Nat.add_comm,
    ← List.rotate_rotate]
  exact (List.zipWith_rotate_distrib Prod.mk _ _ shift lengths).symm

theorem getElem?_edges {i : Nat} (within : i < vertices.length) :
    ∃ vertex previous, vertices[i]? = some vertex ∧
      vertices[(i + vertices.length - 1) % vertices.length]? = some previous ∧
      (edges vertices)[i]? = some (vertex, previous) := by
  have before : (i + vertices.length - 1) % vertices.length < vertices.length :=
    Nat.mod_lt _ (by omega)
  refine ⟨_, _, List.getElem?_eq_getElem within, List.getElem?_eq_getElem before, ?_⟩
  rw [edges_eq_zip, List.zip, List.getElem?_zipWith, List.getElem?_rotate within,
    List.getElem?_eq_getElem within, ← Nat.add_sub_assoc (by omega),
    List.getElem?_eq_getElem before]

theorem countP_edges (turned : vertices ~r rotated) (passes : Point × Point → Bool) :
    (edges rotated).countP passes = (edges vertices).countP passes := by
  obtain ⟨shift, rfl⟩ := turned
  rw [edges_rotate]
  exact (List.rotate_perm _ _).countP_eq passes

theorem exists_of_make_poly (made : make .poly coordinates = .ok area) :
    ∃ vertices, points? coordinates = some vertices ∧ 3 ≤ vertices.length ∧
      area = .poly vertices := by
  simp only [make] at made
  split at made
  next vertices found =>
    split at made
    next enough =>
      cases made
      exact ⟨vertices, found, enough, rfl⟩
    next => cases made
  next => cases made

theorem made_poly (enough : 3 ≤ vertices.length) : (poly vertices).Made := by
  rw [Made, shape, make, points?_coordinates]
  exact if_pos enough

theorem walk?_eq_odd (nonempty : vertices ≠ []) :
    walk? test vertices =
      some (decide (Odd
        ((edges vertices).countP fun (vertex, previous) => test vertex previous))) := by
  rw [walk?_eq_some _ nonempty, Option.some_inj, Bool.eq_iff_iff, decide_eq_true_iff, beq_iff_eq,
    Nat.odd_iff]

theorem walk?_of_rotated (turned : vertices ~r rotated) (nonempty : vertices ≠ []) :
    walk? test rotated = walk? test vertices := by
  have nonemptyRotated : rotated ≠ [] := fun empty =>
    nonempty (List.isRotated_nil_iff.mp (empty ▸ turned))
  rw [walk?_eq_some _ nonemptyRotated, walk?_eq_some _ nonempty, countP_edges turned]

theorem contains_of_rotated (turned : vertices ~r rotated) (point : Point) :
    (poly rotated).contains point = (poly vertices).contains point := by
  rw [contains, contains, insidePoly, insidePoly, countP_edges turned]

theorem holds?_poly (vertices : List Point) (point : Point) :
    holds? .poly (poly vertices).coordinates point = walk? (crosses point) vertices := by
  rw [holds?, points?_coordinates, Option.bind_eq_bind, Option.bind_some, insidePoly?_eq_walk?]

/-- The edges of a polygon are its vertices, each with the one before it and the first with
the last.  Whatever the test of an edge is, going around a polygon gives the parity of the
number of edges that pass it.  So a polygon may begin with any of its vertices: it is still
accepted, and holds the same points. -/
theorem poly_begins_anywhere (made : make .poly coordinates = .ok area) :
    ∃ vertices, area = .poly vertices ∧ (poly vertices).coordinates = coordinates ∧
      (edges vertices).length = vertices.length ∧
      (∀ i < vertices.length, ∃ vertex previous, vertices[i]? = some vertex ∧
        vertices[(i + vertices.length - 1) % vertices.length]? = some previous ∧
        (edges vertices)[i]? = some (vertex, previous)) ∧
      (∀ test, walk? test vertices =
        some (decide (Odd
          ((edges vertices).countP fun (vertex, previous) => test vertex previous)))) ∧
      (∀ point, holds? .poly coordinates point = walk? (crosses point) vertices ∧
        holds? .poly coordinates point = some (area.contains point)) ∧
      ∀ rotated, vertices ~r rotated →
        make .poly (poly rotated).coordinates = .ok (poly rotated) ∧
        (∀ test, walk? test rotated = walk? test vertices) ∧
        ∀ point, holds? .poly (poly rotated).coordinates point = holds? .poly coordinates point ∧
          (poly rotated).contains point = area.contains point := by
  have complete := made_of_make made
  obtain ⟨vertices, found, enough, rfl⟩ := exists_of_make_poly made
  have nonempty : vertices ≠ [] := List.ne_nil_of_length_pos (by omega)
  have same := coordinates_of_points? found
  subst same
  have answers (point : Point) : holds? .poly (poly vertices).coordinates point =
      some ((poly vertices).contains point) := holds?_eq_some complete point
  refine ⟨vertices, rfl, rfl, ?_, fun i => getElem?_edges, fun test => walk?_eq_odd nonempty,
    fun point => ⟨holds?_poly vertices point, answers point⟩, fun rotated turned => ?_⟩
  · rw [edges_eq_zip, List.length_zip, List.length_rotate, Nat.min_self]
  · have madeRotated : (poly rotated).Made := made_poly (turned.perm.length_eq ▸ enough)
    refine ⟨madeRotated, fun test => walk?_of_rotated turned nonempty,
      fun point => ⟨?_, contains_of_rotated turned point⟩⟩
    rw [answers point, ← contains_of_rotated turned point]
    exact holds?_eq_some madeRotated point

/-- A concave polygon from its fourth vertex on. -/
theorem poly_begins_anywhere_concave :
    let vertices : List Point := [⟨0, 0⟩, ⟨10, 0⟩, ⟨10, 4⟩, ⟨4, 4⟩, ⟨4, 10⟩, ⟨0, 10⟩]
    let rotated : List Point := [⟨4, 4⟩, ⟨4, 10⟩, ⟨0, 10⟩, ⟨0, 0⟩, ⟨10, 0⟩, ⟨10, 4⟩]
    make .poly [0, 0, 10, 0, 10, 4, 4, 4, 4, 10, 0, 10] = .ok (.poly vertices) ∧
      vertices ~r rotated ∧
      make .poly (poly rotated).coordinates = .ok (.poly rotated) ∧
      (poly vertices).contains ⟨2, 8⟩ = true ∧ (poly rotated).contains ⟨2, 8⟩ = true ∧
      (poly vertices).contains ⟨8, 8⟩ = false ∧ (poly rotated).contains ⟨8, 8⟩ = false ∧
      walk? (fun vertex previous => vertex.y < previous.y) rotated = some true := by
  intro vertices rotated
  have made : make .poly [0, 0, 10, 0, 10, 4, 4, 4, 4, 10, 0, 10] = .ok (.poly vertices) := rfl
  have turned : vertices ~r rotated := ⟨3, rfl⟩
  have inside : (poly vertices).contains ⟨2, 8⟩ = true := by decide +kernel
  have outside : (poly vertices).contains ⟨8, 8⟩ = false := by decide +kernel
  obtain ⟨_, ⟨⟩, _, _, _, _, _, others⟩ := poly_begins_anywhere made
  obtain ⟨madeRotated, sameWalk, same⟩ := others rotated turned
  exact ⟨made, turned, madeRotated, inside, (same ⟨2, 8⟩).2.trans inside, outside,
    (same ⟨8, 8⟩).2.trans outside, (sameWalk _).trans (by decide)⟩

end Area

end Assessment
