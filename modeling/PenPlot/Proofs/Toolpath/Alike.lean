-- Two heads that stand where the same words are printed. A machine cannot tell their positions
-- apart, so they make the same moves, and the lines of their commands are the same as long as
-- the curves that they draw are sampled where the same words are printed.
import PenPlot.Proofs.Gcode.Lines
import PenPlot.Proofs.Toolpath.Finite

namespace PenPlot.Toolpath

open PenPlot.Geometry
open PenPlot.Gcode (commandLine positionWords)

variable {m : Settings.Machine} {p q r s : Position}

/-! ## Positions that print alike -/

/-- Positions for which a machine prints the same words. -/
def PrintAlike (m : Settings.Machine) (p q : Position) : Prop :=
  positionWords m p = positionWords m q

/-- Coordinates that are printed alike are rounded alike. -/
theorem PrintAlike.rounded (h : PrintAlike m p q) :
    rounded m p.x = rounded m q.x ∧ rounded m p.y = rounded m q.y := by
  have hline : commandLine m (.travel p) = commandLine m (.travel q) :=
    congrArg (fun words => "G0 " ++ words ++ Gcode.feed m) h
  have hmove := congrArg (fun line => Gcode.move? line.toList) hline
  simp only [Gcode.move?_commandLine, Gcode.moveOf, Option.some.injEq, Gcode.Move.mk.injEq,
    true_and, String.toList_inj] at hmove
  exact ⟨Number.roundTo_eq_of_fixed hmove.1, Number.roundTo_eq_of_fixed hmove.2⟩

theorem same_alike (hpq : PrintAlike m p q) (hrs : PrintAlike m r s) :
    same m p r = same m q s := by
  obtain ⟨hpx, hpy⟩ := hpq.rounded
  obtain ⟨hrx, hry⟩ := hrs.rounded
  rw [Bool.eq_iff_iff, same_iff, same_iff, hpx, hpy, hrx, hry]

theorem kept_alike {ps qs : List Position} (hpq : PrintAlike m p q)
    (hlists : ps.map (positionWords m) = qs.map (positionWords m)) :
    (kept m p ps).map (positionWords m) = (kept m q qs).map (positionWords m) := by
  induction ps generalizing p q qs with
  | nil =>
    cases qs with
    | nil => rfl
    | cons b others => cases hlists
  | cons a rest ih =>
    cases qs with
    | nil => cases hlists
    | cons b others =>
      obtain ⟨hab, hrest⟩ := List.cons.inj hlists
      rw [kept, kept, same_alike hab hpq]
      by_cases hsame : same m b q = true
      · rw [if_pos hsame, if_pos hsame]
        exact ih hpq hrest
      · rw [if_neg hsame, if_neg hsame, List.map_cons, List.map_cons, hab, ih hab hrest]

theorem settled_alike {ps qs : List Position} (hpq : PrintAlike m p q)
    (hlists : ps.map (positionWords m) = qs.map (positionWords m)) :
    PrintAlike m (settled m p ps) (settled m q qs) := by
  have hlast : ∀ (p : Position) (ps : List Position), positionWords m (settled m p ps) =
      ((kept m p ps).map (positionWords m)).getLastD (positionWords m p) := by
    intro p ps
    unfold settled
    rw [List.getLastD_eq_getLast?, List.getLastD_eq_getLast?, List.getLast?_map]
    cases (kept m p ps).getLast? <;> rfl
  unfold PrintAlike
  rw [hlast, hlast, kept_alike hpq hlists, hpq]

/-- The lines of travels and of draws are made from the words of their positions. -/
theorem lines_travels (ps : List Position) : (ps.map Command.travel).map (commandLine m) =
    (ps.map (positionWords m)).map fun words => "G0 " ++ words ++ Gcode.feed m := by
  rw [List.map_map, List.map_map]
  rfl

theorem lines_draws (ps : List Position) : (ps.map Command.draw).map (commandLine m) =
    (ps.map (positionWords m)).map fun words => "G1 " ++ words ++ Gcode.feed m := by
  rw [List.map_map, List.map_map]
  rfl

/-! ## Heads that print alike -/

/-- Heads whose pens stand alike, and for which the same words are printed. -/
structure Head.Alike (m : Settings.Machine) (h k : Head) : Prop where
  position : PrintAlike m h.position k.position
  pen : h.pen = k.pen
  contourStart : PrintAlike m h.contourStart k.contourStart

/-- Motions that print the same lines, and leave their heads alike. -/
structure Motion.Alike (m : Settings.Machine) (a b : Motion) : Prop where
  lines : a.1.map (commandLine m) = b.1.map (commandLine m)
  head : a.2.Alike m b.2

theorem Motion.Alike.andThen {a b : Motion} {f g : Head → Motion} (hab : a.Alike m b)
    (hfg : (f a.2).Alike m (g b.2)) : (a.andThen f).Alike m (b.andThen g) := by
  unfold Motion.andThen
  refine ⟨?_, hfg.head⟩
  rw [List.map_append, List.map_append, hab.lines, hfg.lines]

/-- Whether the curves of segments are sampled where the same words are printed, each from where
two heads are when they come to it. -/
def Head.sampledAlike (m : Settings.Machine) : List (Segment Float) → Head → Head → Bool
  | [], _, _ => true
  | s :: rest, h, k =>
    (samplesFrom m h.position s).map (positionWords m) ==
        (samplesFrom m k.position s).map (positionWords m) &&
      Head.sampledAlike m rest (h.step m s).2 (k.step m s).2

variable {h k : Head}

theorem closing_alike (hhk : h.Alike m k) :
    (closing m h).map (positionWords m) = (closing m k).map (positionWords m) := by
  unfold closing
  rw [hhk.pen]
  by_cases hc : m.closeContours = true ∧ k.pen = .down
  · rw [if_pos hc, if_pos hc, List.map_singleton, List.map_singleton, hhk.contourStart]
  · rw [if_neg hc, if_neg hc]

/-- Heads that are alike do the same for a segment that is sampled alike. -/
theorem step_alike (hhk : h.Alike m k) {segment : Segment Float}
    (hsamples : (samplesFrom m h.position segment).map (positionWords m) =
      (samplesFrom m k.position segment).map (positionWords m)) :
    (h.step m segment).Alike m (k.step m segment) := by
  rcases segment with target | c | _
  · rw [Head.step_moveTo, Head.step_moveTo, hhk.pen]
    refine ⟨?_, settled_alike hhk.position rfl, rfl, rfl⟩
    rw [List.map_append, List.map_append, lines_travels, lines_travels,
      kept_alike hhk.position rfl]
  · change (c.samples h.position m.curveSteps.value).map (positionWords m) =
      (c.samples k.position m.curveSteps.value).map (positionWords m) at hsamples
    rw [Head.step_draw, Head.step_draw, kept_flatten, kept_flatten, settled_flatten,
      settled_flatten, hhk.pen]
    refine ⟨?_, settled_alike hhk.position hsamples, rfl, hhk.contourStart⟩
    rw [List.map_append, List.map_append, lines_draws, lines_draws,
      kept_alike hhk.position hsamples]
  · rw [Head.step_closePath, Head.step_closePath]
    have hclosing := closing_alike hhk
    refine ⟨?_, settled_alike hhk.position hclosing, rfl, hhk.contourStart⟩
    rw [List.map_append, List.map_append, lines_draws, lines_draws,
      kept_alike hhk.position hclosing, hhk.pen]

theorem steps_alike {segments : List (Segment Float)} (hhk : h.Alike m k)
    (hsamples : h.sampledAlike m segments k = true) :
    (h.steps m segments).Alike m (k.steps m segments) := by
  induction segments generalizing h k with
  | nil => exact ⟨rfl, hhk⟩
  | cons s rest ih =>
    rw [Head.sampledAlike, Bool.and_eq_true, beq_iff_eq] at hsamples
    have hstep := step_alike hhk hsamples.1
    exact hstep.andThen (ih hstep.head hsamples.2)

theorem trace_alike {segments : List (Segment Float)} (hhk : PrintAlike m h.position k.position)
    (hsamples : (Head.at h.position).sampledAlike m segments (.at k.position) = true) :
    (trace m segments h).Alike m (trace m segments k) := by
  have hat : (Head.at h.position).Alike m (.at k.position) := ⟨hhk, rfl, hhk⟩
  have hsteps := steps_alike hat hsamples
  rw [trace_eq, trace_eq]
  refine ⟨?_, hsteps.head.position, rfl, hsteps.head.contourStart⟩
  rw [List.map_append, List.map_append, hsteps.lines, hsteps.head.pen]

/-! ## Where no difference can show -/

/-- Lines end where they end, from wherever they are drawn. -/
theorem sampledAlike_of_straight {segments : List (Segment Float)}
    (hstraight : ∀ c, .draw c ∈ segments → c = .line c.stop) :
    h.sampledAlike m segments k = true := by
  induction segments generalizing h k with
  | nil => rfl
  | cons s rest ih =>
    have hsame : samplesFrom m h.position s = samplesFrom m k.position s := by
      cases s with
      | draw c =>
        rw [hstraight c List.mem_cons_self]
        rfl
      | _ => rfl
    rw [Head.sampledAlike, Bool.and_eq_true, beq_iff_eq, hsame]
    exact ⟨rfl, ih fun c hc => hstraight c (List.mem_cons_of_mem s hc)⟩

/-- A glyph that has to be travelled to is traced in the same way from everywhere. -/
theorem trace_of_travel {target : Position} {rest : List (Segment Float)}
    (hh : same m target h.position = false) (hk : same m target k.position = false) :
    trace m (.moveTo target :: rest) h = trace m (.moveTo target :: rest) k := by
  have hstep : ∀ {p : Position}, same m target p = false →
      (Head.at p).step m (.moveTo target) = ([.travel target], .at target) := by
    intro p hp
    rw [Head.step_moveTo]
    simp [Head.at, lifting, kept, settled, hp]
  unfold trace
  rw [Head.steps, Head.steps, hstep hh, hstep hk]

/-- Heads for which the same position is printed trace a glyph with the same lines, and the same
position is printed for them afterwards, as long as the curves of the glyph are sampled where the
same words are printed; so it is where all curves are lines. A glyph that they have to travel to
they trace with the same commands. -/
theorem heads_that_print_alike_trace_alike
    (hhk : positionWords m h.position = positionWords m k.position)
    (segments : List (Segment Float)) :
    ((Head.at h.position).sampledAlike m segments (.at k.position) = true ∨
        (∀ c, .draw c ∈ segments → c = .line c.stop) →
      (trace m segments h).1.map (commandLine m) = (trace m segments k).1.map (commandLine m) ∧
        positionWords m (trace m segments h).2.position =
          positionWords m (trace m segments k).2.position) ∧
    (∀ target rest, segments = .moveTo target :: rest → same m target h.position = false →
      trace m segments h = trace m segments k) := by
  refine ⟨?_, ?_⟩
  · intro hcurves
    have halike := trace_alike hhk (hcurves.elim id sampledAlike_of_straight)
    exact ⟨halike.lines, halike.head.position⟩
  · rintro target rest rfl htravel
    have hboth : same m target h.position = same m target k.position := same_alike rfl hhk
    exact trace_of_travel htravel (hboth ▸ htravel)

/-- A machine that prints whole numbers, and draws a curve in four steps. -/
def wholeMachine : Settings.Machine :=
  { Settings.Machine.standard with
    coordinatePrecision := ⟨0, Nat.le_refl 0, Nat.zero_le 6⟩
    curveSteps := ⟨4, Nat.le_add_left 1 3, Nat.le_add_left 4 996⟩ }

theorem a_low_arch_is_traced_alike :
    let arch : List (Segment Float) := [.moveTo ⟨0, 0⟩, .draw (.quad ⟨1, 0⟩ ⟨4, 0⟩)]
    positionWords wholeMachine ⟨0, 0⟩ = positionWords wholeMachine ⟨0.25, 0⟩ ∧
      (trace wholeMachine arch (.at ⟨0, 0⟩)).1.map (commandLine wholeMachine) =
        (trace wholeMachine arch (.at ⟨0.25, 0⟩)).1.map (commandLine wholeMachine) := by
  intro arch
  have hwords : positionWords wholeMachine ⟨0, 0⟩ = positionWords wholeMachine ⟨0.25, 0⟩ := by
    decide +kernel
  have hsampled : (Head.at ⟨0, 0⟩).sampledAlike wholeMachine arch (.at ⟨0.25, 0⟩) = true := by
    decide +kernel
  have hlaw := heads_that_print_alike_trace_alike (h := .at ⟨0, 0⟩) (k := .at ⟨0.25, 0⟩)
    hwords arch
  exact ⟨hwords, (hlaw.1 (Or.inl hsampled)).1⟩

theorem a_curve_shows_where_it_starts :
    let arch : List (Segment Float) := [.moveTo ⟨0, 0⟩, .draw (.quad ⟨1, 0⟩ ⟨3.875, 0⟩)]
    (∀ s ∈ arch, s.isFinite = true) ∧
      positionWords wholeMachine ⟨0, 0⟩ = positionWords wholeMachine ⟨0.25, 0⟩ ∧
      (trace wholeMachine arch (.at ⟨0, 0⟩)).1.map (commandLine wholeMachine) =
        ["G1G90 Z-6.0F20000", "G1 X1Y0F20000", "G1 X3Y0F20000", "G1 X4Y0F20000",
          "G1G90 Z1.0F20000"] ∧
      (trace wholeMachine arch (.at ⟨0.25, 0⟩)).1.map (commandLine wholeMachine) =
        ["G1G90 Z-6.0F20000", "G1 X1Y0F20000", "G1 X2Y0F20000", "G1 X3Y0F20000",
          "G1 X4Y0F20000", "G1G90 Z1.0F20000"] := by
  decide +kernel

end PenPlot.Toolpath
