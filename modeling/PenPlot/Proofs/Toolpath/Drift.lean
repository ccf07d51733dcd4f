-- The head does not drift. It stays where the last command sent it, however many moves were
-- left out, and a move is left out only where the machine cannot tell its end from where the
-- head is. So after each segment the head is at its end, as far as the machine can tell.
import PenPlot.Proofs.Toolpath.Stroke

namespace PenPlot.Toolpath

open PenPlot.Geometry

variable {m : Settings.Machine} {origin : Position}

/-! ## The moments of tracing -/

/-- The commands so far and the head, when glyphs have been traced from an origin and then some
segments of the next glyph have been done. -/
def soFar (m : Settings.Machine) (origin : Position) (earlier : List (List (Segment Float)))
    (before : List (Segment Float)) : Motion :=
  (traceAll m earlier (.at origin)).andThen fun h => (Head.at h.position).steps m before

/-- The head is the one that the glyph reaches from where those before it end. -/
theorem head_soFar (earlier : List (List (Segment Float))) (before : List (Segment Float)) :
    (soFar m origin earlier before).2 =
      reached m (traceAll m earlier (.at origin)).2.position before := rfl

/-- The head on its way along a curve, when it has been sent to some points of it. -/
def soFarAlong (m : Settings.Machine) (origin : Position) (earlier : List (List (Segment Float)))
    (before : List (Segment Float)) (c : Curve Float) (count : Nat) : Motion :=
  (soFar m origin earlier before).andThen fun head =>
    head.drawAll m ((c.flatten head.position m.curveSteps.value).take count)

/-- The moments while glyphs are traced: after each glyph, after each segment, and within a
segment, when the pen has been lifted for a move, when the head has been sent to some points of a
curve, when the pen has been lowered for the next one, and when a contour has been drawn to its
start. -/
inductive Moment (m : Settings.Machine) (origin : Position) (glyphs : List (List (Segment Float))) :
    Motion → Prop
  | glyph {earlier later : List (List (Segment Float))} (h : glyphs = earlier ++ later) :
      Moment m origin glyphs (traceAll m earlier (.at origin))
  | segment {earlier later : List (List (Segment Float))} {before after : List (Segment Float)}
      (h : glyphs = earlier ++ (before ++ after) :: later) :
      Moment m origin glyphs (soFar m origin earlier before)
  | lifted {earlier later : List (List (Segment Float))} {before after : List (Segment Float)}
      {target : Position} (h : glyphs = earlier ++ (before ++ .moveTo target :: after) :: later) :
      Moment m origin glyphs ((soFar m origin earlier before).andThen Head.lift)
  | point {earlier later : List (List (Segment Float))} {before after : List (Segment Float)}
      {c : Curve Float} (h : glyphs = earlier ++ (before ++ .draw c :: after) :: later)
      (count : Nat) : Moment m origin glyphs (soFarAlong m origin earlier before c count)
  | lowered {earlier later : List (List (Segment Float))} {before after : List (Segment Float)}
      {c : Curve Float} (h : glyphs = earlier ++ (before ++ .draw c :: after) :: later)
      (count : Nat) :
      Moment m origin glyphs ((soFarAlong m origin earlier before c count).andThen Head.lower)
  | closed {earlier later : List (List (Segment Float))} {before after : List (Segment Float)}
      (h : glyphs = earlier ++ (before ++ .closePath :: after) :: later)
      (hcloses : m.closeContours = true) (hpen : (soFar m origin earlier before).2.pen = .down) :
      Moment m origin glyphs ((soFar m origin earlier before).andThen fun head =>
        head.drawTo m head.contourStart)

/-! ## The position is the one that was commanded -/

/-- A plotter that carries out the commands from the origin is where the head is. -/
def Motion.Replays (origin : Position) (r : Motion) : Prop :=
  ((Plotter.at origin).replay r.1).position = r.2.position

/-- Only the last target counts for where a plotter is. -/
theorem position_replay (p : Plotter) (commands : List Command) :
    (p.replay commands).position = (targets commands).getLastD p.position := by
  induction commands generalizing p with
  | nil => rfl
  | cons c rest ih =>
    have hrest := ih (p.obey c)
    cases c with
    | travel q => exact hrest.trans (List.getLastD_cons ..).symm
    | draw q => exact hrest.trans (List.getLastD_cons ..).symm
    | lift => exact hrest
    | lower => exact hrest

/-- A head that only goes from one position to the next is where its commands lead. -/
theorem Motion.Goes.replays {r : Motion} (h : r.Goes m origin) : r.Replays origin := by
  obtain ⟨qs, htargets, hposition⟩ := h
  unfold Motion.Replays
  rw [position_replay, htargets, hposition]
  rfl

theorem lift_goes (h : Head) : h.lift.Goes m h.position := by
  rw [Head.lift_eq]
  exact ⟨[], targets_lifting h.pen, rfl⟩

theorem lower_goes (h : Head) : h.lower.Goes m h.position := by
  rw [Head.lower_eq]
  exact ⟨[], targets_lowering h.pen, rfl⟩

theorem drawTo_goes (q : Position) (h : Head) : (h.drawTo m q).Goes m h.position := by
  rw [Head.drawTo_eq]
  refine ⟨[q], ?_, rfl⟩
  rw [targets_append, targets_lowering, targets_draws, List.nil_append]

theorem drawAll_goes (qs : List Position) (h : Head) : (h.drawAll m qs).Goes m h.position := by
  induction qs generalizing h with
  | nil => exact ⟨[], rfl, rfl⟩
  | cons q rest ih => exact (drawTo_goes q h).andThen (ih _)

theorem soFar_goes (earlier : List (List (Segment Float))) (before : List (Segment Float)) :
    (soFar m origin earlier before).Goes m origin :=
  (traceAll_goes earlier (.at origin)).andThen (steps_goes before _)

theorem soFarAlong_goes (earlier : List (List (Segment Float))) (before : List (Segment Float))
    (c : Curve Float) (count : Nat) : (soFarAlong m origin earlier before c count).Goes m origin :=
  (soFar_goes earlier before).andThen (drawAll_goes _ _)

theorem soFar_closing_goes (earlier : List (List (Segment Float)))
    (before : List (Segment Float)) :
    ((soFar m origin earlier before).andThen fun head => head.drawTo m head.contourStart).Goes m
      origin :=
  (soFar_goes earlier before).andThen (drawTo_goes _ _)

theorem Moment.replays {glyphs : List (List (Segment Float))} {r : Motion}
    (h : Moment m origin glyphs r) : r.Replays origin := by
  cases h with
  | @glyph earlier => exact (traceAll_goes earlier (.at origin)).replays
  | @segment earlier _ before => exact (soFar_goes earlier before).replays
  | @lifted earlier _ before => exact ((soFar_goes earlier before).andThen (lift_goes _)).replays
  | @point earlier _ before _ c _ count => exact (soFarAlong_goes earlier before c count).replays
  | @lowered earlier _ before _ c _ count =>
    exact ((soFarAlong_goes earlier before c count).andThen (lower_goes _)).replays
  | @closed earlier _ before => exact (soFar_closing_goes earlier before).replays

/-! ## The head is where it was sent -/

theorem same_refl {p : Position} (hp : p.isFinite = true) : same m p p = true := by
  obtain ⟨hx, hy⟩ := isFinite_point_iff.mp hp
  exact same_iff.mpr ⟨Number.roundTo_self hx _, Number.roundTo_self hy _⟩

/-- The last position that the head was sent to is where it is, or it cannot be told from it. -/
theorem same_settled {q : Position} (hq : q.isFinite = true) (p : Position) (qs : List Position) :
    same m q (settled m p (qs ++ [q])) = true := by
  rw [settled_append]
  unfold settled
  by_cases hs : same m q ((kept m p qs).getLastD p) = true
  · simp only [kept, hs, if_true, List.getLastD_nil]
  · simp only [kept, hs, Bool.false_eq_true, if_false, List.getLastD_cons, List.getLastD_nil]
    exact same_refl hq

/-- The last sample of a curve is its end. -/
theorem samples_eq_concat (c : Curve Float) (p : Position) (steps : Nat) :
    ∃ qs, c.samples p steps = qs ++ [c.stop] := by
  cases c with
  | line q => exact ⟨[], rfl⟩
  | quad d q => exact ⟨_, rfl⟩
  | cubic d e q => exact ⟨_, rfl⟩

/-- After a finite segment the head is at its end. -/
theorem same_stop_step {s : Segment Float} {h : Head} {stop : Position}
    (hs : finiteFrom m h.position s = true) (hstop : s.stop? = some stop) :
    same m stop (h.step m s).2.position = true := by
  cases s with
  | moveTo q =>
    cases hstop
    rw [Head.step_moveTo]
    exact same_settled (finite_moveTo hs) h.position []
  | draw c =>
    cases hstop
    obtain ⟨qs, hqs⟩ := samples_eq_concat c h.position m.curveSteps.value
    have hfinite : c.stop.isFinite = true := by
      apply finite_samples hs
      rw [hqs]
      exact List.mem_concat_self
    rw [Head.step_draw]
    simp only
    rw [settled_flatten, hqs]
    exact same_settled hfinite h.position qs
  | closePath => cases hstop

/-- Where a contour is closed, the head is back at its start. -/
theorem same_start_closePath {h : Head} (hh : h.Finite) (hcloses : m.closeContours = true)
    (hpen : h.pen = .down) :
    same m h.contourStart (h.step m .closePath).2.position = true := by
  rw [Head.step_closePath]
  simp only [closing, hcloses, hpen, and_self, if_true]
  exact same_settled hh.contourStart h.position []

/-! ## Finite heads on the way -/

theorem finiteGlyphs_append {earlier others : List (List (Segment Float))} {h : Head} :
    finiteGlyphs m (earlier ++ others) h =
      (finiteGlyphs m earlier h && finiteGlyphs m others (traceAll m earlier h).2) := by
  induction earlier generalizing h with
  | nil => rfl
  | cons glyph rest ih =>
    rw [List.cons_append, finiteGlyphs, finiteGlyphs, ih, Bool.and_assoc]
    rfl

theorem finiteSteps_append {before after : List (Segment Float)} {h : Head} :
    h.finiteSteps m (before ++ after) =
      (h.finiteSteps m before && (h.steps m before).2.finiteSteps m after) := by
  induction before generalizing h with
  | nil => rfl
  | cons s rest ih =>
    rw [List.cons_append, Head.finiteSteps, Head.finiteSteps, ih, Bool.and_assoc]
    rfl

variable {earlier later : List (List (Segment Float))} {before after : List (Segment Float)}

/-- Where all glyphs are finite, the head is finite before each segment, and the segment is
finite from there. -/
theorem finite_soFar {s : Segment Float} (horigin : origin.isFinite = true)
    (hfinite : finiteGlyphs m (earlier ++ (before ++ s :: after) :: later) (.at origin) = true) :
    (soFar m origin earlier before).2.Finite ∧
      finiteFrom m (soFar m origin earlier before).2.position s = true := by
  rw [finiteGlyphs_append, Bool.and_eq_true, finiteGlyphs, Bool.and_eq_true, finiteSteps_append,
    Bool.and_eq_true, Head.finiteSteps, Bool.and_eq_true] at hfinite
  obtain ⟨hearlier, ⟨hbefore, hs, -⟩, -⟩ := hfinite
  have hstart := traceAll_finite (h := .at origin) horigin hearlier
  have hhead := (Head.Finite.at hstart).steps hbefore
  rw [head_soFar]
  unfold reached
  exact ⟨hhead, hs⟩

/-- One more segment is done from where the head is. -/
theorem soFar_concat (s : Segment Float) :
    (soFar m origin earlier (before ++ [s])).2 =
      ((soFar m origin earlier before).2.step m s).2 := by
  rw [head_soFar, head_soFar, reached_concat]

/-- Within a glyph the head knows where the contour began. -/
theorem contourStart_soFar : (soFar m origin earlier before).2.contourStart =
    contourStart (traceAll m earlier (.at origin)).2.position before := by
  rw [head_soFar, reached_contourStart]

/-! ## The law -/

/-- The head does not drift, however many moves are left out. At every moment it is exactly where
a plotter is that carries out all commands so far. And from a finite origin, for glyphs whose
coordinates and samples are finite, the machine cannot tell the head from the end of a segment
right after it, nor from the start of its contour right after the contour is closed: the target of
the last move of the glyph, or where the glyph began. -/
theorem the_head_does_not_drift (m : Settings.Machine) (origin : Position)
    (glyphs : List (List (Segment Float))) :
    (∀ r, Moment m origin glyphs r → r.Replays origin) ∧
    (origin.isFinite = true → finiteGlyphs m glyphs (.at origin) = true →
      ∀ earlier before s after later, glyphs = earlier ++ (before ++ s :: after) :: later →
        (∀ stop, s.stop? = some stop →
          same m stop (soFar m origin earlier (before ++ [s])).2.position = true) ∧
        (s = .closePath → m.closeContours = true → (soFar m origin earlier before).2.pen = .down →
          same m (contourStart (traceAll m earlier (.at origin)).2.position before)
            (soFar m origin earlier (before ++ [s])).2.position = true)) := by
  refine ⟨fun r => Moment.replays, ?_⟩
  rintro horigin hfinite earlier before s after later rfl
  obtain ⟨hhead, hs⟩ := finite_soFar horigin hfinite
  rw [soFar_concat]
  refine ⟨fun stop => same_stop_step hs, ?_⟩
  rintro rfl hcloses hpen
  rw [← contourStart_soFar]
  exact same_start_closePath hhead hcloses hpen

/-- Two short lines, a short curve and the way back, all of them left out. -/
theorem short_steps_do_not_add_up :
    let m : Settings.Machine :=
      { Settings.Machine.standard with
        curveSteps := ⟨2, by decide, by decide⟩
        closeContours := true }
    let lines : List (Segment Float) :=
      [.moveTo ⟨1, 1⟩, .draw (.line ⟨1.0002, 1⟩), .draw (.line ⟨1.0004, 1⟩)]
    let glyph := lines ++ [.draw (.quad ⟨1.0001, 1⟩ ⟨1.0003, 1⟩), .closePath]
    machineOrigin.isFinite = true ∧ finiteGlyphs m [glyph] (.at machineOrigin) = true ∧
      (traceAll m [glyph] (.at machineOrigin)).Replays machineOrigin ∧
      same m ⟨1.0004, 1⟩ (soFar m machineOrigin [] lines).2.position = true ∧
      same m ⟨1, 1⟩ (soFar m machineOrigin [] glyph).2.position = true := by
  intro m lines glyph
  have horigin : machineOrigin.isFinite = true := by decide +kernel
  have hfinite : finiteGlyphs m [glyph] (.at machineOrigin) = true := by decide +kernel
  obtain ⟨hreplays, hends⟩ := the_head_does_not_drift m machineOrigin [glyph]
  have hline := (hends horigin hfinite [] [.moveTo ⟨1, 1⟩, .draw (.line ⟨1.0002, 1⟩)]
    (.draw (.line ⟨1.0004, 1⟩)) [.draw (.quad ⟨1.0001, 1⟩ ⟨1.0003, 1⟩), .closePath] [] rfl).1
  have hclose := (hends horigin hfinite [] (lines ++ [.draw (.quad ⟨1.0001, 1⟩ ⟨1.0003, 1⟩)])
    .closePath [] [] rfl).2
  exact ⟨horigin, hfinite, hreplays _ (.glyph (List.append_nil _).symm), hline _ rfl,
    hclose rfl rfl (by decide +kernel)⟩

end PenPlot.Toolpath
