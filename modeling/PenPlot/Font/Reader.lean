-- The font reader: it loads one font after the other, answers questions about
-- the last one it loaded, and counts the files that it opens and closes. The
-- character map is kept beside the font, and is taken over before the font is.
import PenPlot.Font.File

namespace PenPlot.Font

/-- A reader: how many files it opened and closed, the font it holds, and the
character map by which it finds glyphs. -/
structure Reader where
  opened : Nat
  closed : Nat
  current? : Option Tables
  charMap : List (Nat × String)

/-- A reader that has loaded nothing. -/
def Reader.fresh : Reader := ⟨0, 0, none, []⟩

/-- Takes over the character map of a file that is open. The parts before it are
looked at first, so that damage to them shows now. -/
def Reader.takeCharMap (r : Reader) (file : File) : Reader × Except LoadFault Unit :=
  match [Part.head, .horizontalMetrics, .charMap].findSome? file.damageAt? with
  | some damage => (r, .error (.damaged damage))
  | none => ({ r with charMap := file.tables.charMap }, .ok ())

/-- Loads a font. A file that is opened and then found to be damaged is closed
at once. -/
def Reader.load (r : Reader) (path : String) (found : Found) : Reader × Except LoadFault Unit :=
  match openFile path found with
  | .error fault => (r, .error fault)
  | .ok file =>
    match { r with opened := r.opened + 1 }.takeCharMap file with
    | (r, .error fault) => ({ r with closed := r.closed + 1 }, .error fault)
    | (r, .ok ()) => ({ r with current? := some file.tables }, .ok ())

/-- Lets go of the font and its character map, if there is one. -/
def Reader.close (r : Reader) : Reader :=
  match r.current? with
  | some _ => ⟨r.opened, r.closed + 1, none, []⟩
  | none => r

/-- A question to a reader. -/
inductive Query where
  | format
  | unitsPerEm
  | metrics
  | glyphName (text : String)
  | advance (text : String)
  | outline (text : String)
  deriving DecidableEq, Repr

/-- An answer of a reader. -/
inductive Answer where
  | format (format : Format)
  | unitsPerEm (units : Int)
  | glyphName (name? : Option String)
  | advance (width : Float)
  | outline (outline? : Option Outline)

/-- The character that a text consists of. -/
def oneChar (text : String) : Except Fault Char :=
  match text.toList with
  | [c] => .ok c
  | _ => .error .notOneCharacter

/-- The answer of a font. -/
def Tables.answer (t : Tables) : Query → Except Fault Answer
  | .format => .ok (.format t.format)
  | .unitsPerEm => .ok (.unitsPerEm t.unitsPerEm)
  | .metrics => (Metrics.ofUnits? t.unitsPerEm).map fun m => .unitsPerEm m.unitsPerEm
  | .glyphName text => (oneChar text).map fun c => .glyphName (t.glyphName? c)
  | .advance text => do
    let c ← oneChar text
    let width ← t.advance c
    pure (.advance width)
  | .outline text => do
    let c ← oneChar text
    let outline? ← (t.outline c).outline
    pure (.outline outline?)

/-- The answer of a reader, which looks characters up in its own map; without a font
there is none. -/
def Reader.answer (r : Reader) (q : Query) : Except Fault Answer :=
  match r.current? with
  | some tables => { tables with charMap := r.charMap }.answer q
  | none => .error .notLoaded

end PenPlot.Font
