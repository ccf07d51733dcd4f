-- The tables of a loaded font, and the questions that they answer: which glyph
-- draws a character, how far the pen moves on after it, and what is drawn.
import PenPlot.Font.Drawing
import PenPlot.Font.Metrics

namespace PenPlot.Font

/-! ## Tables -/

/-- The kind of curves that a font is made of. -/
inductive Format where
  | trueType
  | openType
  deriving DecidableEq, Repr

/-- The word for a format. -/
def Format.name : Format → String
  | .trueType => "TrueType"
  | .openType => "OpenType"

/-- The tables of a font. -/
structure Tables where
  unitsPerEm : Int
  /-- The names of the glyphs, the first of which stands for unmapped characters. -/
  order : List String
  /-- The advance of each glyph that has metrics, if they give one. -/
  advances : List (String × Option Float)
  /-- The glyph of each character, by code point. -/
  charMap : List (Nat × String)
  glyphs : GlyphSet
  /-- The tags of the tables that the font has. -/
  tags : List String

/-- The answer to a question about an outline: the outline, if the character
has a glyph, and the names of the components that it lacks. -/
structure Lookup where
  missing : List String
  outline : Except Fault (Option Outline)

/-! ## Questions to the tables -/

/-- A font has either quadratic curves or, in a table of their own, cubic ones. -/
def Tables.format (t : Tables) : Format :=
  if t.tags.contains "CFF " || t.tags.contains "CFF2" then .openType else .trueType

/-- The name of the glyph of a character. -/
def Tables.glyphName? (t : Tables) (c : Char) : Option String :=
  (t.charMap.reverse.find? fun e => e.1 == c.toNat).map Prod.snd

/-- The advance of a glyph; nought where it has no metrics. -/
def Tables.advanceOf (t : Tables) (name : String) : Except Fault Float :=
  match t.advances.reverse.find? fun e => e.1 == name with
  | some (_, some advance) => .ok advance
  | some (_, none) => .error .noAdvance
  | none => .ok 0

/-- The advance of a character; an unmapped one advances like the first glyph. -/
def Tables.advance (t : Tables) (c : Char) : Except Fault Float :=
  match t.glyphName? c, t.order with
  | some name, _ => t.advanceOf name
  | none, first :: _ => t.advanceOf first
  | none, [] => .error .noFallbackGlyph

/-- An outline out of strokes. -/
def drawn (char : String) (advance : Float) (glyphs : GlyphSet) (strokes : List Stroke) : Lookup :=
  let s := sketch glyphs [] 0 .asDrawn strokes
  match s.fault? with
  | some fault => ⟨s.missing, .error (.drawing fault)⟩
  | none => ⟨s.missing, .ok (some ⟨char, advance, s.segments⟩)⟩

/-- The outline of a character, if it is mapped to a glyph that is there. -/
def Tables.outline (t : Tables) (c : Char) : Lookup :=
  match t.glyphName? c with
  | none => ⟨[], .ok none⟩
  | some name =>
    match t.glyphs.find? name with
    | none => ⟨[], .ok none⟩
    | some strokes =>
      match t.advanceOf name with
      | .error fault => ⟨[], .error fault⟩
      | .ok advance => drawn (String.singleton c) advance t.glyphs strokes

/-! ## Handles -/

/-- What a compilation asks of a font. -/
structure Handle where
  unitsPerEm : Int
  advance : Char → Except Fault Float
  outline : Char → Lookup

/-- The metrics of a font. -/
def Handle.metrics? (h : Handle) : Except Fault Metrics := Metrics.ofUnits? h.unitsPerEm

/-- The handle of a loaded font. -/
def Tables.handle (t : Tables) : Handle := ⟨t.unitsPerEm, t.advance, t.outline⟩

/-- The handle of a font that is given character by character: an advance and
segments for some characters, and an advance for all others. -/
def Handle.ofOutlines (unitsPerEm : Int) (fallback : Float) (outlines : List Outline) : Handle :=
  let find? (c : Char) := outlines.reverse.find? fun o => o.char == String.singleton c
  ⟨unitsPerEm, fun c => .ok (((find? c).map Outline.advance).getD fallback),
    fun c => ⟨[], .ok (find? c)⟩⟩

end PenPlot.Font
