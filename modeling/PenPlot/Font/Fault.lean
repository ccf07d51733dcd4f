-- What can be wrong with a font, or with a question put to it. These are
-- faults of the font's data that show only when the data is used; a font that
-- cannot be loaded at all is the matter of another module.

namespace PenPlot.Font

/-- Why a glyph cannot be drawn. -/
inductive DrawingFault where
  /-- A curve was given no point at all. -/
  | curveWithoutPoints
  /-- The point that a curve would have to start from is not there. -/
  | missingPoint
  /-- A null stands where a stroke needs a point. -/
  | nullPoint
  /-- Components are nested too deeply; where a glyph is a component of itself, they
  are so without end. -/
  | tooDeep
  deriving DecidableEq, Repr

/-- Why a font gives no answer. -/
inductive Fault where
  | gridNotPositive (unitsPerEm : Int)
  /-- The grid is finer than a double can count. -/
  | gridTooFine
  | notLoaded
  /-- The question is about a text that is not one character. -/
  | notOneCharacter
  /-- There is no first glyph to stand for an unmapped character. -/
  | noFallbackGlyph
  /-- The metrics of a glyph leave out its advance. -/
  | noAdvance
  | drawing (cause : DrawingFault)
  deriving DecidableEq, Repr

/-- The wording of the faults that have one. -/
def Fault.message? : Fault → Option String
  | .gridNotPositive n => some ("units_per_em must be positive, got " ++ toString n)
  | .notLoaded => some "Font not loaded. Call load() first."
  | _ => none

end PenPlot.Font
