-- The rules of the pen. A pen that is up may travel and may be lowered; a pen
-- that is down may draw and may be lifted. Every motion of the head keeps these
-- rules, whatever the segments are.
import PenPlot.Proofs.Toolpath.Motion

namespace PenPlot.Toolpath

open PenPlot.Geometry

/-! ## The rules -/

/-- The pen after a command; nothing where the rules forbid the command. -/
def Pen.obey? : Pen → Command → Option Pen
  | .up, .travel _ => some .up
  | .up, .lower => some .down
  | .down, .draw _ => some .down
  | .down, .lift => some .up
  | _, _ => none

/-- The pen after commands, if the rules allow each of them where it comes. -/
def Pen.obeyAll? (pen : Pen) (commands : List Command) : Option Pen :=
  commands.foldlM Pen.obey? pen

@[simp] theorem Pen.obeyAll?_nil (pen : Pen) : pen.obeyAll? [] = some pen := rfl

theorem Pen.obeyAll?_cons (pen : Pen) (c : Command) (rest : List Command) :
    pen.obeyAll? (c :: rest) = (pen.obey? c).bind fun p => p.obeyAll? rest := by
  unfold Pen.obeyAll?
  rw [List.foldlM_cons]
  rfl

theorem Pen.obeyAll?_append (pen : Pen) (a b : List Command) :
    pen.obeyAll? (a ++ b) = (pen.obeyAll? a).bind fun p => p.obeyAll? b := by
  unfold Pen.obeyAll?
  rw [List.foldlM_append]
  rfl

@[simp] theorem Pen.obeyAll?_lifting (pen : Pen) : pen.obeyAll? (lifting pen) = some .up := by
  cases pen <;> rfl

@[simp] theorem Pen.obeyAll?_lowering (pen : Pen) :
    pen.obeyAll? (lowering pen) = some .down := by
  cases pen <;> rfl

theorem Pen.obeyAll?_travels (ps : List Position) :
    Pen.up.obeyAll? (ps.map .travel) = some .up := by
  induction ps with
  | nil => rfl
  | cons p rest ih => exact ih

theorem Pen.obeyAll?_draws (ps : List Position) :
    Pen.down.obeyAll? (ps.map .draw) = some .down := by
  induction ps with
  | nil => rfl
  | cons p rest ih => exact ih

/-! ## Every motion keeps them -/

/-- The commands of a motion are allowed for a pen, and leave it as the head holds it. -/
def Motion.Allowed (r : Motion) (pen : Pen) : Prop := pen.obeyAll? r.1 = some r.2.pen

theorem Motion.Allowed.andThen {a : Motion} {pen : Pen} {next : Head → Motion}
    (ha : a.Allowed pen) (hn : (next a.2).Allowed a.2.pen) : (a.andThen next).Allowed pen := by
  unfold Motion.Allowed Motion.andThen at *
  rw [Pen.obeyAll?_append, ha]
  exact hn

/-- A pen that is up closes nothing, so a closing draw finds the pen down. -/
theorem obeyAll?_closing (m : Settings.Machine) (h : Head) :
    h.pen.obeyAll? ((kept m h.position (closing m h)).map .draw) = some h.pen := by
  unfold closing
  by_cases hc : m.closeContours ∧ h.pen = .down
  · rw [hc.2]
    exact Pen.obeyAll?_draws _
  · simp [hc, kept]

theorem step_allowed (m : Settings.Machine) (s : Segment Float) (h : Head) :
    (h.step m s).Allowed h.pen := by
  unfold Motion.Allowed
  rcases s with q | c | _
  · rw [Head.step_moveTo, Pen.obeyAll?_append, Pen.obeyAll?_lifting]
    exact Pen.obeyAll?_travels _
  · rw [Head.step_draw, Pen.obeyAll?_append, Pen.obeyAll?_lowering]
    exact Pen.obeyAll?_draws _
  · rw [Head.step_closePath, Pen.obeyAll?_append, obeyAll?_closing]
    exact Pen.obeyAll?_lifting _

theorem steps_allowed (m : Settings.Machine) (segments : List (Segment Float)) (h : Head) :
    (h.steps m segments).Allowed h.pen := by
  induction segments generalizing h with
  | nil => rfl
  | cons s rest ih => exact (step_allowed m s h).andThen (ih _)

/-- A glyph is allowed for a pen that is up, and leaves it up. -/
theorem obeyAll?_trace (m : Settings.Machine) (segments : List (Segment Float)) (h : Head) :
    Pen.up.obeyAll? (trace m segments h).1 = some .up := by
  have hsteps : Pen.up.obeyAll? ((Head.at h.position).steps m segments).1 = _ :=
    steps_allowed m segments (Head.at h.position)
  rw [trace_eq, Pen.obeyAll?_append, hsteps]
  exact Pen.obeyAll?_lifting _

theorem obeyAll?_traceAll (m : Settings.Machine) (glyphs : List (List (Segment Float)))
    (h : Head) : Pen.up.obeyAll? (traceAll m glyphs h).1 = some .up := by
  induction glyphs generalizing h with
  | nil => rfl
  | cons g rest ih =>
    rw [traceAll, Motion.andThen, Pen.obeyAll?_append, obeyAll?_trace]
    exact ih _

theorem pen_traceAll (m : Settings.Machine) (glyphs : List (List (Segment Float))) (h : Head)
    (hup : h.pen = .up) : (traceAll m glyphs h).2.pen = .up := by
  induction glyphs generalizing h with
  | nil => exact hup
  | cons g rest ih => exact ih _ (by rw [trace_eq])

/-! ## The law -/

/-- From any position, and for any glyphs one after the other, the head meets no failing
check, its commands keep the rules of a pen that starts up, and the pen is up again after
each glyph. -/
theorem the_pen_keeps_its_rules (m : Settings.Machine) (origin : Position)
    (glyphs : List (List (Segment Float))) :
    ∃ motion, traceAll? m glyphs (Head.at origin) = .ok motion ∧
      motion = traceAll m glyphs (Head.at origin) ∧
      Pen.up.obeyAll? motion.1 = some .up ∧ motion.2.pen = .up :=
  ⟨_, traceAll?_eq m glyphs _, rfl, obeyAll?_traceAll m glyphs _, pen_traceAll m glyphs _ rfl⟩

end PenPlot.Toolpath
