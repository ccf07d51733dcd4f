-- Layout: where each character of a text stands on the paper. Lines go down
-- from the top margin, one for each line of the text that is plotted, and
-- within a line each character moves the pen on by its advance.
import PenPlot.Font.Metrics
import PenPlot.Geometry.Frame
import PenPlot.Settings.Style
import PenPlot.Text.Lines

namespace PenPlot.Layout

open PenPlot.Geometry

/-- The distances of a layout: the margins, from line to line, the size of a
font unit, the share of an advance that counts, and the gap after a character. -/
structure Spacing (α : Type) where
  marginX : α
  marginY : α
  lineHeight : α
  scale : α
  advanceScale : α
  letterSpacing : α

/-- A character and where it stands. -/
structure Placement (α : Type) where
  char : Char
  frame : Frame α
  deriving Repr

variable {α : Type} [Add α] [Mul α]

/-- How far a character with the given advance moves the pen on. -/
def Spacing.step (s : Spacing α) (advance : α) : α :=
  advance * s.scale * s.advanceScale + s.letterSpacing

/-- Places the characters of a line, each given with its advance, from `x` on. -/
def placeLine (s : Spacing α) (y x : α) : List (Char × α) → List (Placement α)
  | [] => []
  | (c, advance) :: rest => ⟨c, ⟨x, y, s.scale⟩⟩ :: placeLine s y (x + s.step advance) rest

/-- Places lines, the first of which has the number `i`. -/
def placeFrom [NatCast α] (s : Spacing α) (i : Nat) : List (List (Char × α)) → List (Placement α)
  | [] => []
  | line :: rest =>
    placeLine s (s.marginY + (i : α) * s.lineHeight) s.marginX line ++ placeFrom s (i + 1) rest

/-- Placing keeps the characters of a line in order. -/
theorem map_char_placeLine (s : Spacing α) (y x : α) (line : List (Char × α)) :
    (placeLine s y x line).map Placement.char = line.map Prod.fst := by
  induction line generalizing x with
  | nil => rfl
  | cons c rest ih => simp [placeLine, ih]

/-- Places lines from the top margin down. -/
def place [NatCast α] (s : Spacing α) (lines : List (List (Char × α))) : List (Placement α) :=
  placeFrom s 0 lines

/-- Looks up the advances of the characters of all lines in order. -/
def measure {ε β : Type} (advance : Char → Except ε β) (lines : List (List Char)) :
    Except ε (List (List (Char × β))) :=
  lines.mapM fun line => line.mapM fun c => (advance c).map fun width => (c, width)

/-- The distances that a style asks for. -/
def spacing (style : Settings.Style) (scale : Float) : Spacing Float where
  marginX := style.marginX.value
  marginY := style.marginY.value
  lineHeight := style.resolvedLineHeight
  scale := scale
  advanceScale := style.advanceScale.value
  letterSpacing := style.letterSpacing.value

/-- Lays out a text in a style. -/
def layOut (text : String) (style : Settings.Style) (metrics : Font.Metrics)
    (advance : Char → Except Font.Fault Float) : Except Font.Fault (List (Placement Float)) := do
  let scale ← metrics.scaleFor? style.fontSize.value
  let lines ← measure advance (Text.retainedLines text.toList)
  pure (place (spacing style scale) lines)

end PenPlot.Layout
