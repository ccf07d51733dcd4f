-- Toolpaths: what the pen does. The segments of a glyph become commands to
-- travel, to draw, and to lift and lower the pen. The pen travels only when it
-- is up and draws only when it is down, and a move to where the pen already is
-- is left out; two positions are the same when the machine cannot tell them
-- apart.
import PenPlot.Geometry.Flatten
import PenPlot.Number.Fixed
import PenPlot.Settings.Machine

namespace PenPlot.Toolpath

open PenPlot.Geometry

/-! ## The head of the plotter -/

/-- A position on the paper. -/
abbrev Position := Point Float

/-- What the pen does next. -/
inductive Command where
  | travel (target : Position)
  | draw (target : Position)
  | lift
  | lower
  deriving DecidableEq, Repr

/-- Whether the pen is on the paper. -/
inductive Pen where
  | up
  | down
  deriving DecidableEq, Repr

/-- The pen, where it is, and where the contour that it draws began. -/
structure Head where
  position : Position
  pen : Pen
  contourStart : Position
  deriving DecidableEq, Repr

/-- The place where a machine starts and ends. -/
def machineOrigin : Position := ⟨0, 0⟩

/-- A head at a position, the pen up. -/
def Head.at (p : Position) : Head := ⟨p, .up, p⟩

/-- Whether a machine cannot tell two positions apart. -/
def same (m : Settings.Machine) (a b : Position) : Bool :=
  Number.roundTo m.coordinatePrecision.value a.x == Number.roundTo m.coordinatePrecision.value b.x &&
    Number.roundTo m.coordinatePrecision.value a.y == Number.roundTo m.coordinatePrecision.value b.y

/-! ## Motions -/

/-- Commands, and the head after them. -/
abbrev Motion := List Command × Head

/-- A motion goes on with what the head does next. -/
def Motion.andThen (a : Motion) (next : Head → Motion) : Motion :=
  let b := next a.2
  (a.1 ++ b.1, b.2)

/-- What comes first and what comes after may be put together in any order. -/
theorem Motion.andThen_assoc (a : Motion) (f g : Head → Motion) :
    (a.andThen f).andThen g = a.andThen fun h => (f h).andThen g := by
  simp [Motion.andThen]

/-- Lifts the pen if it is down. -/
def Head.lift (h : Head) : Motion :=
  match h.pen with
  | .down => ([.lift], { h with pen := .up })
  | .up => ([], h)

/-- Lowers the pen if it is up. -/
def Head.lower (h : Head) : Motion :=
  match h.pen with
  | .up => ([.lower], { h with pen := .down })
  | .down => ([], h)

/-- Draws to a position with the pen down. -/
def Head.drawTo (m : Settings.Machine) (p : Position) (h : Head) : Motion :=
  Motion.andThen h.lower fun h =>
    if same m p h.position then ([], h) else ([.draw p], { h with position := p })

/-- Draws to one position after the other. -/
def Head.drawAll (m : Settings.Machine) : List Position → Head → Motion
  | [], h => ([], h)
  | p :: rest, h => (h.drawTo m p).andThen (Head.drawAll m rest)

/-- Travels to a position with the pen up. -/
def Head.travelTo (m : Settings.Machine) (p : Position) (h : Head) : Motion :=
  Motion.andThen h.lift fun h =>
    if same m p h.position then ([], h) else ([.travel p], { h with position := p })

/-! ## Tracing -/

/-- What the head does for a segment. A curve that ends where it starts still
lowers the pen, and leaves a dot. -/
def Head.step (m : Settings.Machine) : Segment Float → Head → Motion
  | .moveTo p, h => (h.travelTo m p).andThen fun h => ([], { h with contourStart := p })
  | .draw c, h =>
    (h.drawAll m (c.flatten h.position m.curveSteps.value)).andThen Head.lower
  | .closePath, h =>
    if m.closeContours ∧ h.pen = .down then (h.drawTo m h.contourStart).andThen Head.lift
    else h.lift

/-- What the head does for segments. -/
def Head.steps (m : Settings.Machine) : List (Segment Float) → Head → Motion
  | [], h => ([], h)
  | s :: rest, h => (h.step m s).andThen (Head.steps m rest)

/-- Segments are done one after the other. -/
theorem Head.steps_append (m : Settings.Machine) (a b : List (Segment Float)) (h : Head) :
    h.steps m (a ++ b) = (h.steps m a).andThen (Head.steps m b) := by
  induction a generalizing h with
  | nil => simp [Head.steps, Motion.andThen]
  | cons s rest ih =>
    have step : Head.steps m (rest ++ b) = fun h => (h.steps m rest).andThen (Head.steps m b) :=
      funext ih
    rw [List.cons_append, Head.steps, Head.steps, step, Motion.andThen_assoc]

/-- Traces the segments of a glyph: the pen is up before and after them. -/
def trace (m : Settings.Machine) (segments : List (Segment Float)) (h : Head) : Motion :=
  ((Head.at h.position).steps m segments).andThen Head.lift

/-! ## Commands in writing -/

/-- A command as it is written down: a word and perhaps a position. What stands in
the place of the word may be anything, or nothing. -/
structure Record where
  kind? : Option Json
  x? : Option Float
  y? : Option Float
  deriving Repr

/-- Why a written command is none. -/
inductive RecordError where
  | noKind
  | unknownKind (kind : Json)
  | noPosition (kind : String)
  deriving Repr

/-- The words for the commands. -/
def commandKinds : List String := ["travel", "draw", "lift", "lower"]

/-- The word of a record, if it is one of those for the commands. -/
def Record.word? (r : Record) : Except RecordError String :=
  match r.kind? with
  | none => .error .noKind
  | some (.str word) =>
    if commandKinds.contains word then .ok word else .error (.unknownKind (.str word))
  | some kind => .error (.unknownKind kind)

/-- The command that a record stands for. -/
def Record.command? (r : Record) : Except RecordError Command := do
  let word ← r.word?
  match word, r.x?, r.y? with
  | "lift", _, _ => .ok .lift
  | "lower", _, _ => .ok .lower
  | "travel", some x, some y => .ok (.travel ⟨x, y⟩)
  | "draw", some x, some y => .ok (.draw ⟨x, y⟩)
  | _, _, _ => .error (.noPosition word)

/-- The commands that records stand for. The words of all are looked at first. -/
def commands? (records : List Record) : Except RecordError (List Command) := do
  let _ ← records.mapM Record.word?
  records.mapM Record.command?

end PenPlot.Toolpath
