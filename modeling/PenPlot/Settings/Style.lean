-- The style of a text: the font, the size, and the distances between
-- characters and lines. Lengths are in the units of the paper.
import PenPlot.Settings.Scalar

namespace PenPlot.Settings

/-- A style. -/
structure Style where
  font : Option String
  fontPath : Option Files.Path
  fontSize : Positive
  marginX : Finite
  marginY : Finite
  lineHeightFactor : Positive
  lineHeight : Option Positive
  letterSpacing : Finite
  advanceScale : Share
  deriving DecidableEq, Repr

/-- The style of which nothing is said. -/
def Style.standard : Style where
  font := none
  fontPath := none
  fontSize := ⟨8.0, by decide, by decide⟩
  marginX := ⟨1.665, by decide⟩
  marginY := ⟨7.136, by decide⟩
  lineHeightFactor := ⟨1.2, by decide, by decide⟩
  lineHeight := none
  letterSpacing := ⟨0.1, by decide⟩
  advanceScale := ⟨1.0, isFinite_one, by decide, by decide⟩

/-- The distance between two lines: the one that is set, or a multiple of the
font size. -/
def Style.resolvedLineHeight (s : Style) : Float :=
  match s.lineHeight with
  | some height => height.value
  | none => s.fontSize.value * s.lineHeightFactor.value

/-- The font as the style names it, a path before a name. -/
def Style.fontReference? (s : Style) : Option String :=
  match s.fontPath with
  | some path => some path.toString
  | none => s.font

/-- Whether the style names a font at all. -/
def Style.namesFont (s : Style) : Bool := s.fontPath.isSome || s.font.any (· ≠ "")

/-- Checks the fields of a style. -/
def Style.check (fields : List (String × Json)) : Checked Style :=
  let start := Style.standard
  Style.mk
    <$> optionalField "font" start.font (nullable (scalar readText)) fields
    <*> optionalField "font_path" start.fontPath (nullable (scalar readPath)) fields
    <*> optionalField "font_size" start.fontSize (scalar readPositive) fields
    <*> optionalField "margin_x" start.marginX (scalar readFinite) fields
    <*> optionalField "margin_y" start.marginY (scalar readFinite) fields
    <*> optionalField "line_height_factor" start.lineHeightFactor (scalar readPositive) fields
    <*> optionalField "line_height" start.lineHeight (nullable (scalar readPositive)) fields
    <*> optionalField "letter_spacing" start.letterSpacing (scalar readFinite) fields
    <*> optionalField "advance_scale" start.advanceScale (scalar readShare) fields

/-- The fields of a style as they are written out. -/
def Style.fields (s : Style) : List (String × Json) := [
  ("font", (s.font.map Json.str).getD .null),
  ("font_path", (s.fontPath.map fun p => Json.str p.toString).getD .null),
  ("font_size", .real s.fontSize.value),
  ("margin_x", .real s.marginX.value),
  ("margin_y", .real s.marginY.value),
  ("line_height_factor", .real s.lineHeightFactor.value),
  ("line_height", (s.lineHeight.map fun h => Json.real h.value).getD .null),
  ("letter_spacing", .real s.letterSpacing.value),
  ("advance_scale", .real s.advanceScale.value)]

end PenPlot.Settings
