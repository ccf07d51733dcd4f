-- Compilations: a text becomes a program for the machine. The characters are
-- laid out, each outline is checked and mapped onto the paper, and the pen
-- traces one after the other. The result is a whole program or an error.
import PenPlot.Error
import PenPlot.Gcode
import PenPlot.Layout
import PenPlot.Stats

namespace PenPlot

open PenPlot.Geometry

/-! ## Requests -/

/-- A request that can be carried out: a text with something to plot, and a
style that names a font. -/
structure Request where
  text : String
  style : Settings.Style

/-- Checks that a request has a text to plot and a font to plot it in. -/
def Request.check (text? : Option String) (style? : Option Settings.Style) :
    Except RequestFault Request :=
  match text?, style? with
  | none, _ => .error .textMissing
  | some text, style? =>
    if Text.retainedLines text.toList = [] then .error .textBlank
    else
      match style? with
      | none => .error .styleMissing
      | some style => if style.namesFont then .ok ⟨text, style⟩ else .error .fontNotNamed

namespace Compilation

/-! ## Outlines on the paper -/

/-- Maps segments onto the paper, the first of which has the number `i`; all
coordinates have to be finite before and after. -/
def mapSegments (frame : Frame Float) : Nat → List (Segment Float) →
    Except GeometryFault (List (Segment Float))
  | _, [] => .ok []
  | i, s :: rest =>
    if !s.isFinite then .error (.notFinite i s.kindName)
    else
      let mapped := s.map frame.place
      if !mapped.isFinite then .error (.outsidePaper i s.kindName)
      else (mapSegments frame (i + 1) rest).map (mapped :: ·)

/-- Checks an outline and maps it onto the paper. -/
def mapOutline (frame : Frame Float) (o : Font.Outline) : Except GeometryFault (List (Segment Float)) :=
  if o.isWellFormed then mapSegments frame 0 o.segments else .error .noMoveTo

/-! ## Drawing -/

/-- What came of drawing characters: the commands, the events, and the error
that ended it. -/
structure Drawing where
  commands : List Toolpath.Command
  events : List Event
  error? : Option CompileError

/-- Events and commands, and then what came of the characters after them. -/
def Drawing.after (commands : List Toolpath.Command) (events : List Event) (d : Drawing) : Drawing :=
  ⟨commands ++ d.commands, events ++ d.events, d.error?⟩

/-- Draws characters one after the other. Those without an outline, or with an
empty one, are skipped. -/
def draw (m : Settings.Machine) (font : Font.Handle) :
    List (Layout.Placement Float) → Toolpath.Head → Drawing
  | [], _ => ⟨[], [], none⟩
  | p :: rest, head =>
    let char := String.singleton p.char
    let found := font.outline p.char
    let missing := found.missing.map Event.componentMissing
    match found.outline with
    | .error fault => ⟨[], missing, some (.unusableFont fault)⟩
    | .ok none =>
      (draw m font rest head).after [] (missing ++ [.glyphSkipped char "no glyph mapping"])
    | .ok (some outline) =>
      if outline.isEmpty then
        (draw m font rest head).after [] (missing ++ [.glyphSkipped char "empty outline"])
      else
        match mapOutline p.frame outline with
        | .error fault =>
          let message := geometryMessage outline.char fault
          ⟨[], missing ++ [.geometryError char message "GeometryError"],
            some (.geometry outline.char fault)⟩
        | .ok segments =>
          let (commands, next) := Toolpath.trace m segments head
          let traced := Event.glyphTraced char commands.length outline.contourCount
          (draw m font rest next).after commands (missing ++ [traced])

/-! ## The whole compilation -/

/-- A compilation that came to its end: the program or the error, what was
noted, and the statistics. -/
structure Result where
  outcome : Except CompileError Gcode.Program
  events : List Event
  stats : Stats

/-- The result of a compilation that stopped with an error. -/
def Result.stopped (start : Float) (events : List Event) (e : CompileError) : Result :=
  ⟨.error e, events, Stats.countAll { startTime? := some start } events⟩

/-- The error of a compilation that lacks its text or its style. What is wrong with
the font comes up first, and then what is needed first: the style. -/
def lacking (style? : Option Settings.Style) (font : Font.Handle) : CompileError :=
  match font.metrics?, style? with
  | .error fault, _ => .unusableFont fault
  | .ok _, none => .noStyle
  | .ok metrics, some style =>
    match metrics.scaleFor? style.fontSize.value with
    | .error fault => .unusableFont fault
    | .ok _ => .noText

/-- Compiles a text with a loaded font; `start` is the time at which it starts
and `stop` the time at which it has succeeded. -/
def run (text : String) (style : Settings.Style) (m : Settings.Machine) (font : Font.Handle)
    (start stop : Float) : Result :=
  let laidOut := do
    let metrics ← font.metrics?
    let placements ← Layout.layOut text style metrics font.advance
    let scale ← metrics.scaleFor? style.fontSize.value
    pure (placements, scale)
  match laidOut with
  | .error fault => .stopped start [] (.unusableFont fault)
  | .ok (placements, scale) =>
    let lines := (Text.retainedLines text.toList).length
    let d := draw m font placements (.at Toolpath.machineOrigin)
    let events := Event.textLaidOut lines placements.length scale :: d.events
    match d.error? with
    | some e => .stopped start events e
    | none =>
      let program := Gcode.emit m d.commands
      let stats := Stats.countAll { startTime? := some start } events
      ⟨.ok program,
        events ++ [.compiled stats.charactersPlaced stats.glyphsTraced stats.glyphsSkipped program.size],
        { stats with endTime? := some stop }⟩

end Compilation

end PenPlot
