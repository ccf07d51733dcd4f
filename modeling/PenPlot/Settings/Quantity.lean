-- Quantities: numbers that are known to lie within bounds. A setting has the
-- type of its bounds, so that whoever uses it need not look again.

namespace PenPlot.Settings

/-- A finite number. -/
structure Finite where
  value : Float
  isFinite : value.isFinite = true
  deriving DecidableEq, Repr

/-- One is finite. -/
theorem isFinite_one : (1.0 : Float).isFinite = true := by decide

/-- A finite number above zero. -/
structure Positive where
  value : Float
  isFinite : value.isFinite = true
  isPositive : 0 < value
  deriving DecidableEq, Repr

/-- A finite number above zero and up to one. -/
structure Share where
  value : Float
  isFinite : value.isFinite = true
  isPositive : 0 < value
  atMostOne : value ≤ 1
  deriving DecidableEq, Repr

/-- A time to wait: above zero, and perhaps without end. -/
structure Duration where
  value : Float
  isPositive : 0 < value
  deriving DecidableEq, Repr

/-- A whole number above zero. -/
structure Count where
  value : Nat
  isPositive : 0 < value
  deriving DecidableEq, Repr

/-- A whole number between two bounds. -/
structure Between (least greatest : Nat) where
  value : Nat
  atLeast : least ≤ value
  atMost : value ≤ greatest
  deriving DecidableEq, Repr

end PenPlot.Settings
