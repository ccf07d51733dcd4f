-- What the text of a program tells about its commands. The lines come back from the text, and
-- each line tells its command: which kind it is, and where its coordinates round to. Only a
-- lift and a lower may look alike, where the two heights are printed alike.
import PenPlot.Proofs.Gcode.Text
import PenPlot.Proofs.Number.Nearest

namespace PenPlot.Gcode

open Toolpath

variable {m : Settings.Machine}

/-! ## Commands that agree -/

/-- Whether a command has no position, or a finite one. -/
def isFinite (c : Command) : Bool := c.target?.all Geometry.Point.isFinite

end PenPlot.Gcode
