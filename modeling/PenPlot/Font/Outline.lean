-- Outlines: what there is to draw for one character, in the units of its font.
import PenPlot.Geometry.Frame

namespace PenPlot.Font

/-- An outline. The name of the character is a string, since the same record
also stands for drawings that are not of a single character. -/
structure Outline where
  char : String
  advance : Float
  segments : List (Geometry.Segment Float)
  deriving Repr

/-- Whether there is nothing to draw, as for a space. -/
def Outline.isEmpty (o : Outline) : Bool := o.segments.isEmpty

/-- Whether a drawing starts by moving somewhere. -/
def startsWithMove : List (Geometry.Segment Float) → Bool
  | [] => true
  | first :: _ => first.isMove

/-- Whether an outline is empty or starts with a move. -/
def Outline.isWellFormed (o : Outline) : Bool := startsWithMove o.segments

/-- The number of contours: each of them starts with a move. -/
def Outline.contourCount (o : Outline) : Nat := o.segments.countP Geometry.Segment.isMove

end PenPlot.Font
