-- The laws of a compiled text. What comes out of a compilation lifts and lowers the
-- pen where it has to, never prints a position twice in a row, and prints numbers
-- throughout exactly when no sample of a curve overflows.
import PenPlot.Proofs.Compilation.Glyph
import PenPlot.Proofs.Gcode.Text

namespace PenPlot.Compilation

open PenPlot.Geometry

variable {text : String} {style : Settings.Style} {m : Settings.Machine} {font : Font.Handle}
  {start stop : Float} {p : Gcode.Program}

/-! ## Numbers throughout -/

theorem origin_finite : (Toolpath.Head.at Toolpath.machineOrigin).position.isFinite = true := by
  decide +kernel

theorem glyphs_finite (text : String) (style : Settings.Style) (font : Font.Handle) :
    ∀ glyph ∈ glyphs text style font, ∀ s ∈ glyph, s.isFinite = true :=
  glyphsOf_finite font _

theorem isDecimal_run (hrun : (run text style m font start stop).outcome = .ok p) :
    (∀ v ∈ Gcode.movesOf p.text, v.isDecimal = true) ↔
      Toolpath.finiteGlyphs m (glyphs text style font) (.at Toolpath.machineOrigin) = true := by
  rw [(run_ok hrun).2, Gcode.isDecimal_emit]
  exact Toolpath.finite_targets origin_finite (glyphs_finite text style font)

/-- A program comes out only where all coordinates are finite, in the font and on the paper.
Then every position that it prints is a number exactly when, on the way of the head over the
glyphs, every sample of every curve is finite too. -/
theorem the_numbers_are_finite_where_the_samples_are
    (hrun : (run text style m font start stop).outcome = .ok p) :
    (∀ q ∈ placed text style font, Accepted font q) ∧
      ((∀ v ∈ Gcode.movesOf p.text, v.isDecimal = true) ↔
        Toolpath.finiteGlyphs m (glyphs text style font) (.at Toolpath.machineOrigin) = true) :=
  ⟨(run_ok hrun).1, isDecimal_run hrun⟩

theorem ok_of_isSome {ε α : Type} {r : Except ε α} (h : r.toOption.isSome = true) :
    ∃ a, r = .ok a := by
  cases r with
  | error e => cases h
  | ok a => exact ⟨a, rfl⟩

/-- A machine that draws a curve in two steps. -/
def coarseMachine : Settings.Machine :=
  { Settings.Machine.standard with curveSteps := ⟨2, Nat.le_succ 1, Nat.le_add_left 2 998⟩ }

/-- A font of one glyph, an arch. -/
def archFont : Font.Handle :=
  .ofOutlines 8 4 [⟨"n", 5, [.moveTo ⟨0, 0⟩, .draw (.line ⟨0, 3⟩),
    .draw (.quad ⟨4, 6⟩ ⟨4, 0⟩), .closePath]⟩]

theorem arches_come_out :
    ∃ p, (run "n n" .standard coarseMachine archFont 0 0).outcome = .ok p :=
  ok_of_isSome (by decide +kernel)

theorem arches_are_finite :
    Toolpath.finiteGlyphs coarseMachine (glyphs "n n" .standard archFont)
      (.at Toolpath.machineOrigin) = true := by
  decide +kernel

theorem the_numbers_of_two_arches_are_finite :
    ∃ p, (run "n n" .standard coarseMachine archFont 0 0).outcome = .ok p ∧
      ∀ v ∈ Gcode.movesOf p.text, v.isDecimal = true := by
  obtain ⟨p, hrun⟩ := arches_come_out
  exact ⟨p, hrun, (the_numbers_are_finite_where_the_samples_are hrun).2.mpr arches_are_finite⟩

/-- A font of one glyph, a curve whose ends lie further apart than the largest double. -/
def longFont : Font.Handle :=
  .ofOutlines 8 4 [⟨"I", 4, [.moveTo ⟨-Float.ofBits 0x7fe0000000000000, 0⟩,
    .draw (.quad ⟨Float.ofBits 0x7fe0000000000000, 0⟩ ⟨Float.ofBits 0x7fe0000000000000, 0⟩)]⟩]

/-- Finite coordinates are not enough: on the way from one end of a long curve to the other
the difference overflows, and the program that comes out prints what is not a number. -/
theorem a_long_curve_prints_what_is_not_a_number :
    ¬ ∀ p, (run "I" .standard coarseMachine longFont 0 0).outcome = .ok p →
      ∀ v ∈ Gcode.movesOf p.text, v.isDecimal = true := by
  intro hall
  obtain ⟨p, hrun⟩ : ∃ p, (run "I" .standard coarseMachine longFont 0 0).outcome = .ok p :=
    ok_of_isSome (by decide +kernel)
  have hfinite := (isDecimal_run hrun).mp (hall p hrun)
  exact absurd hfinite (by decide +kernel)

/-! ## The rules of a text -/

/-- The text of a program keeps its rules: before each move the last height is the one that the
move needs, before the way home it is the lifted one, and where all positions are numbers, no
two moves in a row print the same position, and the first does not print the origin. -/
theorem the_text_keeps_its_rules
    (hrun : (run text style m font start stop).outcome = .ok p)
    (hdecimal : ∀ v ∈ Gcode.movesOf p.text, v.isDecimal = true) :
    (∀ before line after v, Gcode.textLines p.text = before ++ line :: after →
      Gcode.move? line = some v → Gcode.lastHeight? before =
        some (if v.draws then Gcode.lowerLine m else Gcode.liftLine m).toList) ∧
    (∃ before, Gcode.textLines p.text =
        before ++ ["G90 G0 X0 Y0".toList, "M30".toList, []] ∧
      Gcode.lastHeight? before = some (Gcode.liftLine m).toList) ∧
    ((Gcode.movesOf p.text).map Gcode.Move.decimals).IsChain (· ≠ ·) ∧
    ∀ v ∈ (Gcode.movesOf p.text).head?, v.decimals ≠ (some 0, some 0) := by
  obtain ⟨-, rfl⟩ := run_ok hrun
  have hobey := Toolpath.obeyAll?_traceAll m (glyphs text style font)
    (.at Toolpath.machineOrigin)
  have hfinite := (Gcode.isDecimal_emit _).mp hdecimal
  have horigin : Toolpath.machineOrigin.isFinite = true := origin_finite
  have hchain := Gcode.isChain_printed (List.forall_mem_cons.mpr ⟨horigin, hfinite⟩)
    (Toolpath.isChain_targets (glyphs text style font) (.at Toolpath.machineOrigin))
  rw [List.map_cons, Gcode.printed_machineOrigin, ← Gcode.decimals_emit] at hchain
  refine ⟨?_, Gcode.height_before_home _, hchain.tail, ?_⟩
  · intro before line after v hline hv
    exact Gcode.height_before_move hobey hline hv
  · intro v hv
    have hhead := congrArg (Option.map Gcode.Move.decimals) (Option.mem_def.mp hv)
    rw [← List.head?_map] at hhead
    have hfirst := hchain.rel_head? hhead
    exact hfirst.symm

theorem two_arches_keep_the_rules :
    ∃ p, (run "n n" .standard coarseMachine archFont 0 0).outcome = .ok p ∧
      (∀ v ∈ Gcode.movesOf p.text, v.isDecimal = true) ∧
      ((Gcode.movesOf p.text).map Gcode.Move.decimals).IsChain (· ≠ ·) := by
  obtain ⟨p, hrun⟩ := arches_come_out
  have hdecimal := (isDecimal_run hrun).mpr arches_are_finite
  exact ⟨p, hrun, hdecimal, (the_text_keeps_its_rules hrun hdecimal).2.2.1⟩

end PenPlot.Compilation
