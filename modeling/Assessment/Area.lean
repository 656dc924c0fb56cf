import Assessment.ModelError
import Assessment.Number.Dyadic
import Assessment.Text.Blank

/-!
# Areas

An area is a shape of an image map together with its coordinates.  Each shape has
just the coordinates it needs, so that asking whether a point lies inside never
fails.  Rectangles and circles are exact at every 64-bit coordinate; ellipses and
polygons are computed in doubles.
-/

namespace Assessment

/-- A position in whole units. -/
structure Point where
  x : Int64
  y : Int64
  deriving DecidableEq, Repr, Inhabited

inductive Shape where
  | everywhere
  | rect
  | circle
  | poly
  | ellipse
  deriving DecidableEq, Repr

namespace Shape

def all : List Shape :=
  [everywhere, rect, circle, poly, ellipse]

def name : Shape → String
  | everywhere => "default"
  | rect => "rect"
  | circle => "circle"
  | poly => "poly"
  | ellipse => "ellipse"

instance : Vocabulary Shape where
  title := "shape"
  all := all
  word := name

end Shape

/-- A shape with its coordinates.  The default shape covers everything, whatever
coordinates it was given. -/
inductive Area where
  | everywhere (ignored : List Int64)
  | rect (x1 y1 x2 y2 : Int64)
  | circle (x y radius : Int64)
  | ellipse (x y radiusX radiusY : Int64)
  | poly (vertices : List Point)
  deriving DecidableEq, Repr

namespace Area

def shape : Area → Shape
  | .everywhere _ => .everywhere
  | .rect .. => .rect
  | .circle .. => .circle
  | .ellipse .. => .ellipse
  | .poly _ => .poly

/-- The coordinates in the order in which they are written. -/
def coordinates : Area → List Int64
  | .everywhere ignored => ignored
  | .rect x1 y1 x2 y2 => [x1, y1, x2, y2]
  | .circle x y radius => [x, y, radius]
  | .ellipse x y radiusX radiusY => [x, y, radiusX, radiusY]
  | .poly vertices => vertices.flatMap fun vertex => [vertex.x, vertex.y]

/-- The coordinates separated by commas. -/
def text (area : Area) : String :=
  ",".intercalate (area.coordinates.map Integer.text)

/-- Two coordinates after another as points; `none` if one is left over. -/
def points? : List Int64 → Option (List Point)
  | [] => some []
  | [_] => none
  | x :: y :: rest => (points? rest).map (⟨x, y⟩ :: ·)

/-- The area of a shape with the given coordinates.  Radii of circles must not be
negative, and polygons have at least three vertices. -/
def make (shape : Shape) (coordinates : List Int64) : Except ModelError Area :=
  let fail := fun fault => Except.error (ModelError.invalidCoordinates shape.name fault)
  match shape, coordinates with
  | .everywhere, ignored => .ok (.everywhere ignored)
  | .rect, [x1, y1, x2, y2] => .ok (.rect x1 y1 x2 y2)
  | .rect, others => fail (.count 4 others.length)
  | .ellipse, [x, y, radiusX, radiusY] => .ok (.ellipse x y radiusX radiusY)
  | .ellipse, others => fail (.count 4 others.length)
  | .circle, [x, y, radius] =>
      if radius.toInt < 0 then fail .negativeRadius else .ok (.circle x y radius)
  | .circle, others => fail (.count 3 others.length)
  | .poly, others =>
      match points? others with
      | some vertices =>
          if 3 ≤ vertices.length then .ok (.poly vertices)
          else fail (.vertices others.length)
      | none => fail (.vertices others.length)

/-- Reads coordinates separated by commas; a blank text has none. -/
def read (shape : Shape) (text : List Char) : Except ModelError Area :=
  let trimmed := Text.trim text
  if trimmed.isEmpty then make shape []
  else
    match (Text.split (· == ',') trimmed).mapM (fun part => Integer.read (Text.trim part)) with
    | .ok coordinates => make shape coordinates
    | .error fault => .error (.invalidCoordinates shape.name (.number fault))

/-! ## Points inside -/

def insideRect (x1 y1 x2 y2 x y : Int) : Bool :=
  min x1 x2 ≤ x && x ≤ max x1 x2 && min y1 y2 ≤ y && y ≤ max y1 y2

def insideCircle (centreX centreY radius x y : Int) : Bool :=
  (x - centreX) * (x - centreX) + (y - centreY) * (y - centreY) ≤ radius * radius

/-- An ellipse without width or height holds no point. -/
def insideEllipse (centreX centreY radiusX radiusY x y : Float) : Bool :=
  if radiusX == 0.0 || radiusY == 0.0 then false
  else
    let dx := (x - centreX) / radiusX
    let dy := (y - centreY) / radiusY
    dx * dx + dy * dy ≤ 1.0

/-- Whether a ray from the point to the right crosses the edge between two
vertices. -/
def crosses (point vertex previous : Point) : Bool :=
  let x := Real64.ofInteger point.x
  let y := Real64.ofInteger point.y
  let xi := Real64.ofInteger vertex.x
  let yi := Real64.ofInteger vertex.y
  let xj := Real64.ofInteger previous.x
  let yj := Real64.ofInteger previous.y
  (decide (y < yi) != decide (y < yj)) && x < (xj - xi) * (y - yi) / (yj - yi) + xi

/-- Each vertex with the one before it, the first with the last. -/
def edges (vertices : List Point) : List (Point × Point) :=
  match vertices.getLast? with
  | none => []
  | some last => vertices.zip (last :: vertices)

/-- A point is inside of a polygon if the ray crosses an odd number of edges. -/
def insidePoly (vertices : List Point) (point : Point) : Bool :=
  (edges vertices).countP (fun (vertex, previous) => crosses point vertex previous) % 2 == 1

/-- Whether a point lies in the area.  The borders of rectangles, circles and
ellipses belong to them. -/
def contains (area : Area) (point : Point) : Bool :=
  match area with
  | .everywhere _ => true
  | .rect x1 y1 x2 y2 =>
      insideRect x1.toInt y1.toInt x2.toInt y2.toInt point.x.toInt point.y.toInt
  | .circle x y radius =>
      insideCircle x.toInt y.toInt radius.toInt point.x.toInt point.y.toInt
  | .ellipse x y radiusX radiusY =>
      insideEllipse (Real64.ofInteger x) (Real64.ofInteger y) (Real64.ofInteger radiusX)
        (Real64.ofInteger radiusY) (Real64.ofInteger point.x) (Real64.ofInteger point.y)
  | .poly vertices => insidePoly vertices point

end Area

end Assessment
