-- Font descriptions: the contents of a font file, written as JSON. What a
-- description leaves out is empty, and its grid has a thousand units.
import PenPlot.Font.File
import PenPlot.Json.Reader

namespace PenPlot.Font

open PenPlot.Geometry

/-- A point, written as a list of two numbers. -/
def spotOfJson? : Json → Option Spot
  | .arr [x, y] => do pure ⟨← x.number?, ← y.number?⟩
  | _ => none

/-- The points of a run. -/
def spotsOfJson? (items : List Json) : Option (List Spot) := items.mapM spotOfJson?

/-- A transform, written as a list of six numbers. -/
def affineOfJson? (j : Json) : Option Affine := do
  match ← j.items.mapM Json.number? with
  | [xx, xy, yx, yy, dx, dy] => pure ⟨xx, xy, yx, yy, dx, dy⟩
  | _ => none

/-- A quadratic run; a null in the last place makes it a loop. -/
def quadOfJson (items : List Json) : Stroke :=
  match items.reverse with
  | .null :: controls => ((spotsOfJson? controls.reverse).map .quadLoop).getD .unplaced
  | _ => ((spotsOfJson? items).map .quadTo).getD .unplaced

/-- A cubic run; one control point and a null are a loop. -/
def curveOfJson (items : List Json) : Stroke :=
  match items with
  | [control, .null] => ((spotOfJson? control).map .curveLoop).getD .unplaced
  | _ => ((spotsOfJson? items).map .curveTo).getD .unplaced

/-- A stroke, written as a list of its word and what belongs to it. -/
def strokeOfJson? : Json → Option Stroke
  | .arr [.str "moveTo", p] => some (((spotOfJson? p).map .moveTo).getD .unplaced)
  | .arr [.str "lineTo", p] => some (((spotOfJson? p).map .lineTo).getD .unplaced)
  | .arr (.str "curveTo" :: points) => some (curveOfJson points)
  | .arr (.str "qCurveTo" :: points) => some (quadOfJson points)
  | .arr (.str "closePath" :: _) => some .closePath
  | .arr (.str "endPath" :: _) => some .endPath
  | .arr [.str "addComponent", .str name, t] => (affineOfJson? t).map (.component name)
  | _ => none

/-- The strokes of a glyph. -/
def strokesOfJson (j : Json) : List Stroke := j.items.filterMap strokeOfJson?

/-- The glyphs of a font. -/
def glyphsOfJson (j : Json) : GlyphSet := j.fields.map fun f => (f.1, strokesOfJson f.2)

/-- The strings of a list. -/
def stringsOfJson (j : Json) : List String := j.items.filterMap Json.string?

/-- The field of a description, empty where it is left out. -/
def part (j : Json) (name : String) : Json := (j.get? name).getD .null

/-- The tables of a description. -/
def Tables.ofJson (j : Json) : Tables where
  unitsPerEm := ((j.given? "upm").bind Json.integer?).getD 1000
  order := stringsOfJson (part j "order")
  advances := (part j "metrics").fields.map fun f => (f.1, f.2.items.head?.bind Json.number?)
  charMap := (part j "cmap").fields.filterMap fun f => do
    pure ((← f.1.toNat?), (← f.2.string?))
  glyphs := glyphsOfJson (part j "glyphs")
  tags := stringsOfJson (part j "tables")

/-- The part of a file by the word for it. -/
def partNamed? : String → Option Part
  | "open" => some .opening
  | "head" => some .head
  | "hmtx" => some .horizontalMetrics
  | "cmap" => some .charMap
  | _ => none

/-- Damage by the word for its kind. -/
def damageNamed? (text : String) : String → Option Damage
  | "ValueError" => some (.badValue text)
  | "KeyError" => some (.missingEntry text)
  | "OSError" => some (.unreadable text)
  | _ => none

/-- The damage of a description: the part it is in, and its kind and text. -/
def damageOfJson? (j : Json) : Option (Part × Damage) := do
  let place ← partNamed? (← (← j.get? "at").string?)
  let text := ((j.get? "message").bind Json.string?).getD ""
  pure (place, ← damageNamed? text (← (← j.get? "kind").string?))

/-- The font file of a description. -/
def File.ofJson (j : Json) : File where
  tables := .ofJson j
  damage? := (j.given? "fail").bind damageOfJson?
  stalls := (part j "stall").isTrue

/-- The font file that a text describes; a text that is no description is a
damaged file. -/
def File.ofText (text : String) : File :=
  match Json.read? text with
  | some (.obj fields) => .ofJson (.obj fields)
  | _ => { File.ofJson .null with damage? := some (.opening, .badValue "not a font description") }

end PenPlot.Font
