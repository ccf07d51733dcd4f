-- Where one glyph ends and the next one begins. The pen is lifted at the end of a glyph, and a
-- glyph that starts with a move would lift it first anyway. So the commands do not show where
-- the boundary is: glyphs that are traced one after the other are traced as one stream.
import PenPlot.Proofs.Toolpath.Motion

namespace PenPlot.Toolpath

open PenPlot.Geometry

variable {m : Settings.Machine}

/-! ## What shows of a motion -/

/-- Motions with the same commands, after which the head is at the same position and its pen is
in the same state. Where a contour began does not show: the next glyph forgets it. -/
structure Motion.ShowsAs (a b : Motion) : Prop where
  commands : a.1 = b.1
  position : a.2.position = b.2.position
  pen : a.2.pen = b.2.pen

theorem Motion.ShowsAs.refl (a : Motion) : a.ShowsAs a := ⟨rfl, rfl, rfl⟩

theorem Motion.ShowsAs.trans {a b c : Motion} (hab : a.ShowsAs b) (hbc : b.ShowsAs c) :
    a.ShowsAs c :=
  ⟨hab.commands.trans hbc.commands, hab.position.trans hbc.position, hab.pen.trans hbc.pen⟩

/-- What shows of a motion is what shows of its first part and of what comes after that. -/
theorem Motion.ShowsAs.after {f g : Head → Motion} (a : Motion) (h : (f a.2).ShowsAs (g a.2)) :
    (a.andThen f).ShowsAs (a.andThen g) := by
  unfold Motion.andThen
  exact ⟨congrArg (a.1 ++ ·) h.commands, h.position, h.pen⟩

/-! ## Segments that start afresh -/

/-- Segments that do not go on with a contour: there are none, or the first one is a move. -/
def StartsAfresh (segments : List (Segment Float)) : Prop :=
  segments = [] ∨ ∃ target rest, segments = .moveTo target :: rest

theorem startsAfresh_flatten {glyphs : List (List (Segment Float))}
    (h : ∀ glyph ∈ glyphs, StartsAfresh glyph) : StartsAfresh glyphs.flatten := by
  induction glyphs with
  | nil => exact Or.inl rfl
  | cons glyph rest ih =>
    obtain ⟨hglyph, hrest⟩ := List.forall_mem_cons.mp h
    rw [List.flatten_cons]
    rcases hglyph with rfl | ⟨target, others, rfl⟩
    · exact ih hrest
    · exact Or.inr ⟨target, others ++ rest.flatten, List.cons_append⟩

/-- A move lifts the pen first, and then only the position counts. -/
theorem step_move_eq (target : Position) (h : Head) :
    h.step m (.moveTo target) =
      Motion.andThen h.lift fun k => (Head.at k.position).step m (.moveTo target) := by
  rw [Head.lift_eq, Head.step_moveTo]
  simp only [Motion.andThen, Head.step_moveTo, Head.at, lifting, List.nil_append]

theorem steps_move_eq (target : Position) (rest : List (Segment Float)) (h : Head) :
    h.steps m (.moveTo target :: rest) =
      Motion.andThen h.lift fun k => (Head.at k.position).steps m (.moveTo target :: rest) := by
  simp only [Head.steps]
  rw [step_move_eq, Motion.andThen_assoc]

/-! ## Tracing across a boundary -/

/-- The lift at the end of a glyph is the one that the move after it would have made. -/
theorem trace_append_move (a : List (Segment Float)) (target : Position)
    (rest : List (Segment Float)) (h : Head) :
    trace m (a ++ .moveTo target :: rest) h =
      (trace m a h).andThen (trace m (.moveTo target :: rest)) := by
  have hmove : Head.steps m (.moveTo target :: rest) = fun r : Head =>
      Motion.andThen r.lift fun k => (Head.at k.position).steps m (.moveTo target :: rest) :=
    funext (steps_move_eq target rest)
  have hnext : trace m (.moveTo target :: rest) = fun k : Head =>
      ((Head.at k.position).steps m (.moveTo target :: rest)).andThen Head.lift := rfl
  rw [trace, Head.steps_append, hmove, trace, hnext, Motion.andThen_assoc, Motion.andThen_assoc]
  simp only [Motion.andThen_assoc]

theorem pen_trace (segments : List (Segment Float)) (h : Head) :
    (trace m segments h).2.pen = .up := by
  rw [trace_eq]

theorem trace_nil (h : Head) : trace m [] h = ([], .at h.position) := rfl

/-- Segments that start afresh may be traced with those before them, or after them. -/
theorem trace_append (a : List (Segment Float)) {b : List (Segment Float)} (hb : StartsAfresh b)
    (h : Head) : ((trace m a h).andThen (trace m b)).ShowsAs (trace m (a ++ b) h) := by
  rcases hb with rfl | ⟨target, rest, rfl⟩
  · rw [List.append_nil, Motion.andThen, trace_nil, List.append_nil]
    exact ⟨rfl, rfl, (pen_trace a h).symm⟩
  · rw [trace_append_move]
    exact .refl _

/-- Glyphs are traced as the stream of their segments, if all after the first start afresh. -/
theorem traceAll_flatten (first : List (Segment Float)) {rest : List (List (Segment Float))}
    (hrest : ∀ glyph ∈ rest, StartsAfresh glyph) (h : Head) :
    (traceAll m (first :: rest) h).ShowsAs (trace m (first :: rest).flatten h) := by
  induction rest generalizing first h with
  | nil =>
    rw [traceAll, Motion.andThen, traceAll, List.append_nil, List.flatten_singleton]
    exact .refl _
  | cons second others ih =>
    have hothers := (List.forall_mem_cons.mp hrest).2
    have hstream := Motion.ShowsAs.after (trace m first h) (ih second hothers (trace m first h).2)
    exact hstream.trans (trace_append first (startsAfresh_flatten hrest) h)

end PenPlot.Toolpath
