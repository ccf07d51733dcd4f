-- The machine: how high and how deep the pen goes, how fast it moves, and how
-- finely it is told where to go.
import PenPlot.Settings.Scalar

namespace PenPlot.Settings

/-- A machine. -/
structure Machine where
  liftHeight : Finite
  drawDepth : Finite
  feedRate : Count
  curveSteps : Between 1 1000
  coordinatePrecision : Between 0 6
  closeContours : Bool
  deriving DecidableEq, Repr

/-- The machine of which nothing is said. -/
def Machine.standard : Machine where
  liftHeight := ⟨1.0, isFinite_one⟩
  drawDepth := ⟨-6.0, by decide⟩
  feedRate := ⟨20000, by decide⟩
  curveSteps := ⟨20, by decide, by decide⟩
  coordinatePrecision := ⟨3, by decide, by decide⟩
  closeContours := false

/-- Checks the fields of a machine. -/
def Machine.check (fields : List (String × Json)) : Checked Machine :=
  let start := Machine.standard
  Machine.mk
    <$> optionalField "lift_height" start.liftHeight (scalar readFinite) fields
    <*> optionalField "draw_depth" start.drawDepth (scalar readFinite) fields
    <*> optionalField "feed_rate" start.feedRate (scalar readCount) fields
    <*> optionalField "curve_steps" start.curveSteps (scalar (readBetween 1 1000)) fields
    <*> optionalField "coordinate_precision" start.coordinatePrecision (scalar (readBetween 0 6)) fields
    <*> optionalField "close_contours" start.closeContours (scalar readTruth) fields

/-- The fields of a machine as they are written out. -/
def Machine.fields (m : Machine) : List (String × Json) := [
  ("lift_height", .real m.liftHeight.value),
  ("draw_depth", .real m.drawDepth.value),
  ("feed_rate", .integer m.feedRate.value),
  ("curve_steps", .integer m.curveSteps.value),
  ("coordinate_precision", .integer m.coordinatePrecision.value),
  ("close_contours", .bool m.closeContours)]

end PenPlot.Settings
