-- Frames: where a character stands on the paper. A frame maps the units of a
-- font, whose y grows upward, to the units of the paper, whose y grows
-- downward.
import PenPlot.Geometry.Flatten

namespace PenPlot.Geometry

/-- The origin of a character on the paper, and the size of one font unit. -/
structure Frame (α : Type) where
  originX : α
  originY : α
  scale : α
  deriving DecidableEq, Repr

/-- A point of the font on the paper. -/
def Frame.place {α : Type} [Add α] [Sub α] [Mul α] (f : Frame α) (p : Point α) : Point α :=
  ⟨f.originX + p.x * f.scale, f.originY - p.y * f.scale⟩

end PenPlot.Geometry
