-- Points and the segments that an outline is made of. Nothing here depends on
-- the kind of number that a coordinate is: the plotter works with doubles, and
-- the same definitions can be read over the rationals.

namespace PenPlot.Geometry

/-- A point of the plane. -/
structure Point (α : Type) where
  x : α
  y : α
  deriving DecidableEq, Repr

/-- Points are compared by their coordinates, as the numbers compare them. -/
instance {α : Type} [BEq α] : BEq (Point α) := ⟨fun a b => a.x == b.x && a.y == b.y⟩

/-- What the pen draws from where it is: a straight line, or a Bezier curve of
degree two or three. The last point is where the drawing ends. -/
inductive Curve (α : Type) where
  | line (stop : Point α)
  | quad (control stop : Point α)
  | cubic (control₁ control₂ stop : Point α)
  deriving DecidableEq, Repr

/-- A segment of an outline: a contour starts, goes on with a curve, or closes. -/
inductive Segment (α : Type) where
  | moveTo (target : Point α)
  | draw (curve : Curve α)
  | closePath
  deriving DecidableEq, Repr

variable {α β : Type}

/-- The end of a curve. -/
def Curve.stop : Curve α → Point α
  | .line p => p
  | .quad _ p => p
  | .cubic _ _ p => p

/-- The points of a curve in the order in which they are written. -/
def Curve.points : Curve α → List (Point α)
  | .line p => [p]
  | .quad c p => [c, p]
  | .cubic c d p => [c, d, p]

/-- The curve with every point mapped. -/
def Curve.map (f : Point α → Point β) : Curve α → Curve β
  | .line p => .line (f p)
  | .quad c p => .quad (f c) (f p)
  | .cubic c d p => .cubic (f c) (f d) (f p)

/-- The end of a segment; a closing segment names none. -/
def Segment.stop? : Segment α → Option (Point α)
  | .moveTo p => some p
  | .draw c => some c.stop
  | .closePath => none

/-- The points of a segment in the order in which they are written. -/
def Segment.points : Segment α → List (Point α)
  | .moveTo p => [p]
  | .draw c => c.points
  | .closePath => []

/-- The segment with every point mapped. -/
def Segment.map (f : Point α → Point β) : Segment α → Segment β
  | .moveTo p => .moveTo (f p)
  | .draw c => .draw (c.map f)
  | .closePath => .closePath

/-- The coordinates of a segment, each point's x before its y. -/
def Segment.coordinates (s : Segment α) : List α := s.points.flatMap fun p => [p.x, p.y]

/-- Whether a segment starts a contour. -/
def Segment.isMove : Segment α → Bool
  | .moveTo _ => true
  | _ => false

/-- The word for the kind of a segment. -/
def Segment.kindName : Segment α → String
  | .moveTo _ => "MoveTo"
  | .draw (.line _) => "LineTo"
  | .draw (.quad _ _) => "QuadTo"
  | .draw (.cubic _ _ _) => "CubicTo"
  | .closePath => "ClosePath"

/-- Whether every coordinate of a segment is a finite number. -/
def Segment.isFinite (s : Segment Float) : Bool := s.coordinates.all Float.isFinite

end PenPlot.Geometry
