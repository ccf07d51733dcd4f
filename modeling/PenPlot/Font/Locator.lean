-- Locators: where the font of a style is found. A path that the style gives
-- stands for itself, and a name stands for a file in the directory of fonts.
import PenPlot.Settings.Style

namespace PenPlot.Font

/-- The file name of a font with the given name. -/
def fileName (font : String) : String := font ++ ".ttf"

/-- The locator of the font of a style, if the style names a font. -/
def locator? (style : Settings.Style) (fontDir : Files.Path) : Option String :=
  match style.fontPath, style.font with
  | some path, _ => some path.toString
  | none, some font =>
    if font = "" then none else some (fontDir.join (Files.Path.ofString (fileName font))).toString
  | none, none => none

end PenPlot.Font
