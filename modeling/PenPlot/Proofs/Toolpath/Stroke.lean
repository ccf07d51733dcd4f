-- What is on the paper in the end. Commands are replayed as a plotter would carry
-- them out, and every run of curves in a glyph comes out as one stroke: the points
-- of the run in order, those that the machine cannot tell apart merged.
import Mathlib.Data.List.Destutter
import PenPlot.Proofs.Toolpath.Run
import PenPlot.Proofs.Toolpath.Target

namespace PenPlot.Toolpath

open PenPlot.Geometry

/-! ## Replaying commands -/

/-- A plotter: where its pen is, the stroke that it draws if the pen is down, and the
strokes that it has drawn. -/
structure Plotter where
  position : Position
  open? : Option (List Position)
  strokes : List (List Position)
  deriving DecidableEq, Repr

/-- A plotter at a position, the pen up, with nothing on the paper. -/
def Plotter.at (p : Position) : Plotter := ⟨p, none, []⟩

/-- Carries out a command. Lowering opens a stroke where the pen is, drawing makes it
longer, and lifting ends it; travelling only moves the pen. -/
def Plotter.obey (p : Plotter) : Command → Plotter
  | .travel q => { p with position := q }
  | .draw q => { p with position := q, open? := p.open?.map (· ++ [q]) }
  | .lower => { p with open? := some [p.position] }
  | .lift => { p with open? := none, strokes := p.strokes ++ p.open?.toList }

/-- Carries out commands one after the other. -/
def Plotter.replay (p : Plotter) (commands : List Command) : Plotter :=
  commands.foldl Plotter.obey p

theorem Plotter.replay_append (p : Plotter) (a b : List Command) :
    p.replay (a ++ b) = (p.replay a).replay b := by
  unfold Plotter.replay
  rw [List.foldl_append]

theorem Plotter.replay_travels (p : Position) (o : Option (List Position))
    (done : List (List Position)) (qs : List Position) :
    (Plotter.mk p o done).replay (qs.map .travel) = ⟨qs.getLastD p, o, done⟩ := by
  induction qs generalizing p with
  | nil => rfl
  | cons q rest ih =>
    rw [List.getLastD_cons]
    exact ih q

theorem Plotter.replay_draws (p : Position) (o : Option (List Position))
    (done : List (List Position)) (qs : List Position) :
    (Plotter.mk p o done).replay (qs.map .draw) = ⟨qs.getLastD p, o.map (· ++ qs), done⟩ := by
  induction qs generalizing p o with
  | nil => cases o <;> simp [Plotter.replay]
  | cons q rest ih =>
    rw [List.getLastD_cons]
    refine (ih q (o.map (· ++ [q]))).trans ?_
    cases o <;> simp

/-! ## The strokes that are asked for -/

/-- Where the pen is after a glyph was begun and some of its segments were done: the
position that was commanded last. -/
def commandedAt (m : Settings.Machine) (start : Position) (before : List (Segment Float)) :
    Position :=
  (targets ((Head.at start).steps m before).1).getLastD start

theorem commandedAt_eq (m : Settings.Machine) (start : Position) (before : List (Segment Float)) :
    commandedAt m start before = ((Head.at start).steps m before).2.position := by
  obtain ⟨qs, htargets, hposition⟩ := steps_goes (m := m) before (Head.at start)
  unfold commandedAt
  rw [htargets, hposition]
  rfl

/-- All samples of the curves of a run, those of each curve from the position commanded when
it is reached. -/
def samplesAlong (m : Settings.Machine) (start : Position) (before : List (Segment Float)) :
    List (Curve Float) → List Position
  | [] => []
  | c :: rest =>
    c.samples (commandedAt m start before) m.curveSteps.value ++
      samplesAlong m start (before ++ [.draw c]) rest

/-- Where the contour began: the target of the last move, or the start of the glyph. -/
def contourStart (start : Position) (before : List (Segment Float)) : Position :=
  (before.filterMap fun s => match s with
    | .moveTo q => some q
    | _ => none).getLast?.getD start

/-- The point that closes the contour of a run, if the run ends in closing it and the machine
closes contours. -/
def Run.closingPoint (m : Settings.Machine) (start : Position) (r : Run) : List Position :=
  if m.closeContours ∧ r.after.head? = some .closePath then [contourStart start r.before] else []

/-- The points of a run: where it starts, the samples of its curves, and what closes it. -/
def Run.points (m : Settings.Machine) (start : Position) (r : Run) : List Position :=
  commandedAt m start r.before ::
    (samplesAlong m start r.before r.curves ++ r.closingPoint m start)

/-- The points of a run, those that follow one that the machine cannot tell them apart from
merged with it. -/
def Run.stroke (m : Settings.Machine) (start : Position) (r : Run) : List Position :=
  (r.points m start).destutter fun a b => ¬ same m b a

/-- The strokes of glyphs, glyph by glyph and run by run; each glyph starts from the position
commanded at the end of the one before. -/
def strokesOf (m : Settings.Machine) : Position → List (List (Segment Float)) →
    List (List Position)
  | _, [] => []
  | start, glyph :: rest =>
    (runs glyph).map (Run.stroke m start) ++ strokesOf m (commandedAt m start glyph) rest

/-! ## The head within a glyph -/

variable {m : Settings.Machine} {start : Position} {before : List (Segment Float)}
  {curves : List (Curve Float)}

/-- The head after the glyph was begun and some of its segments were done. -/
def reached (m : Settings.Machine) (start : Position) (before : List (Segment Float)) : Head :=
  ((Head.at start).steps m before).2

theorem reached_position (before : List (Segment Float)) :
    (reached m start before).position = commandedAt m start before :=
  (commandedAt_eq m start before).symm

theorem reached_append (after : List (Segment Float)) :
    reached m start (before ++ after) = ((reached m start before).steps m after).2 := by
  unfold reached
  rw [Head.steps_append]
  rfl

theorem reached_concat (s : Segment Float) :
    reached m start (before ++ [s]) = ((reached m start before).step m s).2 :=
  reached_append [s]

theorem contourStart_concat (s : Segment Float) :
    contourStart start (before ++ [s]) =
      match s with
      | .moveTo q => q
      | _ => contourStart start before := by
  unfold contourStart
  cases s <;> simp

/-- The head knows where the contour began. -/
theorem reached_contourStart :
    (reached m start before).contourStart = contourStart start before := by
  induction before using List.reverseRecOn with
  | nil => rfl
  | append_singleton before s ih =>
    rw [reached_concat, contourStart_concat]
    cases s with
    | moveTo q => rw [Head.step_moveTo]
    | draw c =>
      rw [Head.step_draw]
      exact ih
    | closePath =>
      rw [Head.step_closePath]
      exact ih

/-- One more curve stands right after those before it. -/
theorem draws_concat (c : Curve Float) :
    before ++ (curves ++ [c]).map Segment.draw = before ++ curves.map .draw ++ [.draw c] := by
  rw [List.map_append, List.map_singleton, List.append_assoc]

theorem samplesAlong_concat (c : Curve Float) :
    samplesAlong m start before (curves ++ [c]) = samplesAlong m start before curves ++
      c.samples (commandedAt m start (before ++ curves.map .draw)) m.curveSteps.value := by
  induction curves generalizing before with
  | nil => simp [samplesAlong]
  | cons d rest ih => simp [samplesAlong, ih]

/-- The curves of a run are being drawn: the pen is down once there is one, and the head is
where it settles when it is sent to all their samples. -/
structure Underway (m : Settings.Machine) (start : Position) (before : List (Segment Float))
    (curves : List (Curve Float)) : Prop where
  pen : (reached m start (before ++ curves.map .draw)).pen = if curves = [] then .up else .down
  position : commandedAt m start (before ++ curves.map .draw) =
    settled m (commandedAt m start before) (samplesAlong m start before curves)
  finite : (reached m start (before ++ curves.map .draw)).Finite

theorem underway_nil (hpen : (reached m start before).pen = .up)
    (hfinite : (reached m start before).Finite) : Underway m start before [] := by
  refine ⟨?_, ?_, ?_⟩
  · rw [List.map_nil, List.append_nil]
    exact hpen
  · rw [List.map_nil, List.append_nil]
    rfl
  · rw [List.map_nil, List.append_nil]
    exact hfinite

theorem Underway.draw (h : Underway m start before curves) {c : Curve Float}
    (hc : finiteFrom m (commandedAt m start (before ++ curves.map .draw)) (.draw c) = true) :
    Underway m start before (curves ++ [c]) := by
  have hpos : (reached m start (before ++ curves.map .draw)).position =
      commandedAt m start (before ++ curves.map .draw) := reached_position _
  refine ⟨?_, ?_, ?_⟩
  · rw [draws_concat, reached_concat, Head.step_draw]
    simp
  · rw [draws_concat, ← reached_position, reached_concat, Head.step_draw, samplesAlong_concat,
      settled_append, ← h.position, ← hpos]
    exact settled_flatten m _ c
  · rw [draws_concat, reached_concat]
    exact h.finite.step (hpos ▸ hc)

/-- A segment that does not draw ends the run. -/
theorem Underway.ends (h : Underway m start before curves) {s : Segment Float}
    (hs : draws s = false)
    (hfinite : finiteFrom m (commandedAt m start (before ++ curves.map .draw)) s = true) :
    Underway m start (before ++ curves.map .draw ++ [s]) [] := by
  apply underway_nil
  · rw [reached_concat]
    rcases s with q | c | _
    · rw [Head.step_moveTo]
    · cases hs
    · rw [Head.step_closePath]
  · rw [reached_concat]
    exact h.finite.step (reached_position _ ▸ hfinite)

/-! ## The plotter within a glyph -/

/-- The stroke of a run that is underway. -/
def strokeSoFar (m : Settings.Machine) (start : Position) (before : List (Segment Float))
    (curves : List (Curve Float)) : List Position :=
  commandedAt m start before ::
    kept m (commandedAt m start before) (samplesAlong m start before curves)

/-- The plotter while the curves of a run are being drawn. -/
def Plotter.underway (m : Settings.Machine) (start : Position) (before : List (Segment Float))
    (curves : List (Curve Float)) (done : List (List Position)) : Plotter :=
  ⟨commandedAt m start (before ++ curves.map .draw),
    if curves = [] then none else some (strokeSoFar m start before curves), done⟩

/-- Merging is what the head does anyway. -/
theorem destutter_eq_kept (p : Position) (qs : List Position) :
    (p :: qs).destutter (fun a b => ¬ same m b a) = p :: kept m p qs := by
  rw [List.destutter_cons']
  induction qs generalizing p with
  | nil => rfl
  | cons q rest ih =>
    rw [List.destutter', kept, ih, ih]
    by_cases hs : same m q p = true
    · rw [if_neg (not_not.mpr hs), if_pos hs]
    · rw [if_pos hs, if_neg hs]

theorem Run.stroke_eq (h : Underway m start before curves) (after : List (Segment Float)) :
    (Run.mk before curves after).stroke m start = strokeSoFar m start before curves ++
      kept m (commandedAt m start (before ++ curves.map .draw))
        ((Run.mk before curves after).closingPoint m start) := by
  unfold Run.stroke Run.points strokeSoFar
  rw [destutter_eq_kept, kept_append, ← h.position]
  rfl

theorem Run.stroke_eq_of_open (h : Underway m start before curves) {after : List (Segment Float)}
    (hafter : after.head? ≠ some .closePath) :
    (Run.mk before curves after).stroke m start = strokeSoFar m start before curves := by
  have hclosing : (Run.mk before curves after).closingPoint m start = [] := by
    unfold Run.closingPoint
    exact if_neg fun hc => hafter hc.2
  rw [Run.stroke_eq h, hclosing, kept, List.append_nil]

theorem strokeSoFar_concat (h : Underway m start before curves) (c : Curve Float) :
    strokeSoFar m start before (curves ++ [c]) = strokeSoFar m start before curves ++
      kept m (commandedAt m start (before ++ curves.map .draw))
        (c.samples (commandedAt m start (before ++ curves.map .draw)) m.curveSteps.value) := by
  unfold strokeSoFar
  rw [samplesAlong_concat, kept_append, ← h.position]
  rfl

theorem replay_lowering (h : Underway m start before curves) (done : List (List Position)) :
    (Plotter.underway m start before curves done).replay
        (lowering (reached m start (before ++ curves.map .draw)).pen) =
      ⟨commandedAt m start (before ++ curves.map .draw),
        some (strokeSoFar m start before curves), done⟩ := by
  unfold Plotter.underway
  rw [h.pen]
  by_cases hc : curves = []
  · simp [hc, lowering, Plotter.replay, Plotter.obey, strokeSoFar, samplesAlong, kept]
  · simp [hc, lowering, Plotter.replay]

/-- A curve makes the stroke of its run longer. -/
theorem replay_draw (h : Underway m start before curves) {c : Curve Float}
    (hc : finiteFrom m (commandedAt m start (before ++ curves.map .draw)) (.draw c) = true)
    (done : List (List Position)) :
    (Plotter.underway m start before curves done).replay
        ((reached m start (before ++ curves.map .draw)).step m (.draw c)).1 =
      Plotter.underway m start before (curves ++ [c]) done := by
  have hposition : commandedAt m start (before ++ (curves ++ [c]).map .draw) =
      settled m (commandedAt m start (before ++ curves.map .draw))
        (c.samples (commandedAt m start (before ++ curves.map .draw)) m.curveSteps.value) := by
    rw [(h.draw hc).position, samplesAlong_concat, settled_append, ← h.position]
  rw [Head.step_draw, Plotter.replay_append, replay_lowering h, Plotter.replay_draws,
    reached_position, kept_flatten]
  unfold Plotter.underway
  rw [hposition, strokeSoFar_concat h]
  simp [settled]

theorem replay_lifting (h : Underway m start before curves) (after : List (Segment Float))
    (hafter : after.head? ≠ some .closePath) (done : List (List Position)) :
    (Plotter.underway m start before curves done).replay
        (lifting (reached m start (before ++ curves.map .draw)).pen) =
      ⟨commandedAt m start (before ++ curves.map .draw), none,
        done ++ (ended before curves after).map (Run.stroke m start)⟩ := by
  unfold Plotter.underway ended
  rw [h.pen]
  by_cases hc : curves = []
  · simp [hc, lifting, Plotter.replay]
  · simp [hc, lifting, Plotter.replay, Plotter.obey, Run.stroke_eq_of_open h hafter]

/-- Drawing does not move where the contour began. -/
theorem contourStart_draws (curves : List (Curve Float)) :
    contourStart start (before ++ curves.map .draw) = contourStart start before := by
  induction curves using List.reverseRecOn with
  | nil => rw [List.map_nil, List.append_nil]
  | append_singleton curves c ih =>
    rw [List.map_append, ← List.append_assoc, List.map_singleton, contourStart_concat]
    exact ih

theorem closing_reached (h : Underway m start before curves) (rest : List (Segment Float)) :
    closing m (reached m start (before ++ curves.map .draw)) =
      if curves = [] then []
      else (Run.mk before curves (.closePath :: rest)).closingPoint m start := by
  unfold closing Run.closingPoint
  rw [h.pen, reached_contourStart, contourStart_draws]
  by_cases hc : curves = []
  · simp [hc]
  · simp [hc]

theorem replay_closePath (h : Underway m start before curves) (rest : List (Segment Float))
    (done : List (List Position)) :
    ((Plotter.underway m start before curves done).replay
        ((reached m start (before ++ curves.map .draw)).step m .closePath).1) =
      ⟨commandedAt m start (before ++ curves.map .draw ++ [.closePath]), none,
        done ++ (ended before curves (.closePath :: rest)).map (Run.stroke m start)⟩ := by
  have hposition : commandedAt m start (before ++ curves.map .draw ++ [.closePath]) =
      settled m (commandedAt m start (before ++ curves.map .draw))
        (closing m (reached m start (before ++ curves.map .draw))) := by
    rw [← reached_position, reached_concat, Head.step_closePath, reached_position]
  rw [hposition, Head.step_closePath, Plotter.replay_append, closing_reached h rest,
    reached_position, h.pen]
  unfold Plotter.underway ended
  rw [Plotter.replay_draws]
  by_cases hc : curves = []
  · simp [hc, lifting, kept, Plotter.replay]
  · simp [hc, lifting, Plotter.replay, Plotter.obey, Run.stroke_eq h, settled]

/-- A segment that does not draw ends the stroke of its run, if one has begun. -/
theorem replay_ends (h : Underway m start before curves) {s : Segment Float}
    (hs : draws s = false) (rest : List (Segment Float)) (done : List (List Position)) :
    (Plotter.underway m start before curves done).replay
        ((reached m start (before ++ curves.map .draw)).step m s).1 =
      Plotter.underway m start (before ++ curves.map .draw ++ [s]) []
        (done ++ (ended before curves (s :: rest)).map (Run.stroke m start)) := by
  have hend : ∀ done, Plotter.underway m start (before ++ curves.map .draw ++ [s]) [] done =
      ⟨commandedAt m start (before ++ curves.map .draw ++ [s]), none, done⟩ := by
    intro done
    simp [Plotter.underway]
  rw [hend]
  rcases s with q | c | _
  · rw [Head.step_moveTo, Plotter.replay_append, replay_lifting h (.moveTo q :: rest)
      (by simp), Plotter.replay_travels, ← reached_position (_ ++ [_]), reached_concat,
      Head.step_moveTo, reached_position]
    rfl
  · cases hs
  · exact replay_closePath h rest done

theorem steps_cons_andThen (s : Segment Float) (rest : List (Segment Float)) (h : Head)
    (next : Head → Motion) :
    ((h.steps m (s :: rest)).andThen next).1 =
      (h.step m s).1 ++ (((h.step m s).2.steps m rest).andThen next).1 := by
  rw [Head.steps, Motion.andThen_assoc]
  rfl

/-- The rest of a glyph finishes the run that is underway and draws those that come after. -/
theorem replay_rest (rest : List (Segment Float)) (h : Underway m start before curves)
    (hfinite : (reached m start (before ++ curves.map .draw)).finiteSteps m rest = true)
    (done : List (List Position)) :
    (Plotter.underway m start before curves done).replay
        (((reached m start (before ++ curves.map .draw)).steps m rest).andThen Head.lift).1 =
      ⟨commandedAt m start (before ++ curves.map .draw ++ rest), none,
        done ++ (runsFrom before curves rest).map (Run.stroke m start)⟩ := by
  -- The glyph is read as its runs are found: it ends, the run goes on, or the run ends and
  -- what comes after it starts with the pen up again.
  fun_induction runsFrom before curves rest generalizing done with
  | case1 before curves =>
    rw [Head.steps, Motion.andThen, Head.lift_eq, List.append_nil]
    exact replay_lifting h [] (by simp) done
  | case2 before curves c rest ih =>
    rw [Head.finiteSteps, Bool.and_eq_true, reached_position] at hfinite
    have hnext := ih (h.draw hfinite.1) (by rw [draws_concat, reached_concat]; exact hfinite.2) done
    rw [draws_concat, reached_concat] at hnext
    rw [steps_cons_andThen, Plotter.replay_append, replay_draw h hfinite.1,
      List.append_cons _ _ rest]
    exact hnext
  | case3 before curves s rest hs ih =>
    rw [Head.finiteSteps, Bool.and_eq_true, reached_position] at hfinite
    have hdraws := draws_eq_false hs
    have hnext := ih (h.ends hdraws hfinite.1)
      (by rw [List.map_nil, List.append_nil, reached_concat]; exact hfinite.2)
      (done ++ (ended before curves (s :: rest)).map (Run.stroke m start))
    rw [List.map_nil, List.append_nil, reached_concat] at hnext
    rw [steps_cons_andThen, Plotter.replay_append, replay_ends h hdraws rest,
      List.append_cons _ s rest, List.map_append, ← List.append_assoc done]
    exact hnext

/-- A glyph comes out as the strokes of its runs. -/
theorem replay_trace (glyph : List (Segment Float)) (h : Head) (hp : h.position.isFinite = true)
    (hfinite : (Head.at h.position).finiteSteps m glyph = true) (done : List (List Position)) :
    (Plotter.mk h.position none done).replay (trace m glyph h).1 =
      ⟨commandedAt m h.position glyph, none,
        done ++ (runs glyph).map (Run.stroke m h.position)⟩ := by
  have hbegin : Underway m h.position [] [] := underway_nil rfl (Head.Finite.at hp)
  exact replay_rest glyph hbegin hfinite done

theorem trace_position (glyph : List (Segment Float)) (h : Head) :
    (trace m glyph h).2.position = commandedAt m h.position glyph := by
  rw [trace_eq, commandedAt_eq]

theorem replay_traceAll (glyphs : List (List (Segment Float))) (h : Head)
    (hp : h.position.isFinite = true) (hfinite : finiteGlyphs m glyphs h = true)
    (done : List (List Position)) :
    (Plotter.mk h.position none done).replay (traceAll m glyphs h).1 =
      ⟨(traceAll m glyphs h).2.position, none, done ++ strokesOf m h.position glyphs⟩ := by
  induction glyphs generalizing h done with
  | nil => simp [traceAll, Plotter.replay, strokesOf]
  | cons glyph rest ih =>
    rw [finiteGlyphs, Bool.and_eq_true] at hfinite
    rw [traceAll, Motion.andThen, Plotter.replay_append, replay_trace glyph h hp hfinite.1,
      ← trace_position, ih _ (trace_finite hp hfinite.1) hfinite.2, strokesOf, ← trace_position, List.append_assoc]

/-! ## The law -/

/-- Each run of a glyph comes out as one stroke, and nothing else does: from a finite origin,
and for glyphs whose coordinates and samples are finite, a plotter that carries out all
commands has drawn the strokes of their runs, glyph by glyph and run by run, and rests where
the head is. -/
theorem each_run_is_one_stroke (m : Settings.Machine) (origin : Position)
    (glyphs : List (List (Segment Float))) (horigin : origin.isFinite = true)
    (hfinite : finiteGlyphs m glyphs (Head.at origin) = true) :
    (Plotter.at origin).replay (traceAll m glyphs (Head.at origin)).1 =
      ⟨(traceAll m glyphs (Head.at origin)).2.position, none, strokesOf m origin glyphs⟩ :=
  replay_traceAll glyphs (Head.at origin) horigin hfinite []

/-- A contour that is closed, and in the next glyph a line back to where the pen is. -/
theorem a_closed_contour_and_a_dot_are_two_strokes :
    let m : Settings.Machine :=
      { Settings.Machine.standard with
        curveSteps := ⟨2, by decide, by decide⟩
        closeContours := true }
    let glyphs : List (List (Segment Float)) :=
      [[.moveTo ⟨1, 1⟩, .draw (.line ⟨5, 1⟩), .draw (.quad ⟨5, 5⟩ ⟨1, 5⟩), .closePath],
        [.draw (.line ⟨1, 1⟩)]]
    machineOrigin.isFinite = true ∧ finiteGlyphs m glyphs (Head.at machineOrigin) = true ∧
      (Plotter.at machineOrigin).replay (traceAll m glyphs (Head.at machineOrigin)).1 =
        ⟨⟨1, 1⟩, none, [[⟨1, 1⟩, ⟨5, 1⟩, ⟨4, 4⟩, ⟨1, 5⟩, ⟨1, 1⟩], [⟨1, 1⟩]]⟩ := by
  refine ⟨by decide +kernel, by decide +kernel, ?_⟩
  rw [each_run_is_one_stroke _ _ _ (by decide +kernel) (by decide +kernel)]
  decide +kernel

end PenPlot.Toolpath
