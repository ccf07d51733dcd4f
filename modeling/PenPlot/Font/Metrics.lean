-- Metrics of a whole font: the grid its glyphs are drawn on.
import PenPlot.Font.Fault
import PenPlot.Number.Binary64

namespace PenPlot.Font

/-- The number of grid units to the em; there is one at least. -/
structure Metrics where
  unitsPerEm : Int
  positive : 0 < unitsPerEm

/-- Metrics with a given grid. -/
def Metrics.ofUnits? (n : Int) : Except Fault Metrics :=
  if h : 0 < n then .ok ⟨n, h⟩ else .error (.gridNotPositive n)

/-- The length of a grid unit where the em has the length `size`. -/
def Metrics.scaleFor? (m : Metrics) (size : Float) : Except Fault Float :=
  match Number.ofInt? m.unitsPerEm with
  | some n => .ok (size / n)
  | none => .error .gridTooFine

end PenPlot.Font
