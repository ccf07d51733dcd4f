-- Texts that go on. The characters that were there before stand where they stood and
-- draw what they drew, so that a text that is compiled has its program begin with the
-- program of each text that it goes on from.
import PenPlot.Proofs.Compilation.Outcome

namespace PenPlot.Compilation

open PenPlot.Geometry

variable {m : Settings.Machine} {font : Font.Handle}

/-- The program of the first characters is a beginning of the program of all. -/
theorem programOf_begins {placements longer : List (Layout.Placement Float)}
    (h : placements <+: longer) {program : Gcode.Program}
    (hprogram : programOf m font longer = .ok program) :
    ∃ first, programOf m font placements = .ok first ∧ first.header = program.header ∧
      first.footer = program.footer ∧ first.body <+: program.body := by
  obtain ⟨more, rfl⟩ := h
  obtain ⟨hnone, rfl⟩ := (programOf_ok_iff ..).mp hprogram
  have hfirst := fun p hp => hnone p (List.mem_append_left more hp)
  refine ⟨_, (programOf_ok_iff ..).mpr ⟨hfirst, rfl⟩, rfl, rfl, ?_⟩
  unfold Gcode.emit glyphsOf
  rw [List.filterMap_append, Toolpath.traceAll_append, Toolpath.Motion.andThen, List.map_append]
  exact List.prefix_append _ _

theorem placements?_begins {text more : String} {style : Settings.Style}
    {longer : List (Layout.Placement Float)}
    (h : placements? (text ++ more) style font = .ok longer) :
    ∃ placements, placements? text style font = .ok placements ∧ placements <+: longer := by
  unfold placements? at h ⊢
  cases hmetrics : font.metrics? with
  | error fault =>
    rw [hmetrics] at h
    cases h
  | ok metrics =>
    rw [hmetrics] at h
    exact Layout.layOut_begins h

/-- Where a text goes on, whatever it goes on with, its layout is a beginning of the longer layout,
and there is one if the font can count its grid and knows all advances. And if the longer text is
compiled, so is the text, with the same header and footer, and its body is a beginning of the longer
body. -/
theorem a_text_that_goes_on_keeps_its_beginning (text more : String) (style : Settings.Style)
    (m : Settings.Machine) (font : Font.Handle) (start stop start' stop' : Float) :
    (∀ metrics advance longer,
      Layout.layOut (text ++ more) style metrics advance = .ok longer →
        ∃ placements, Layout.layOut text style metrics advance = .ok placements ∧
          placements <+: longer) ∧
    (∀ (metrics : Font.Metrics) (advance : Char → Except Font.Fault Float),
      (∃ scale, metrics.scaleFor? style.fontSize.value = .ok scale) →
      (∀ c, ∃ width, advance c = .ok width) →
        ∃ longer, Layout.layOut (text ++ more) style metrics advance = .ok longer) ∧
    ∀ program, (run (text ++ more) style m font start stop).outcome = .ok program →
      ∃ first, (run text style m font start' stop').outcome = .ok first ∧
        first.header = program.header ∧ first.footer = program.footer ∧
        first.body <+: program.body := by
  refine ⟨fun _ _ _ => Layout.layOut_begins, ?_, ?_⟩
  · intro metrics advance hscale hadvance
    exact (Layout.isOk_layOut_iff ..).mpr ⟨hscale, fun _ _ c _ => hadvance c⟩
  · intro program hprogram
    rw [outcome_run] at hprogram
    rw [outcome_run]
    cases hlonger : placements? (text ++ more) style font with
    | error fault =>
      rw [hlonger] at hprogram
      cases hprogram
    | ok longer =>
      rw [hlonger] at hprogram
      obtain ⟨placements, hplaced, hprefix⟩ := placements?_begins hlonger
      rw [hplaced]
      exact programOf_begins hprefix hprogram

theorem arches_go_on :
    ∃ program, (run ("n " ++ "n\n n") .standard coarseMachine archFont 0 0).outcome = .ok program ∧
      ∃ first, (run "n " .standard coarseMachine archFont 0 0).outcome = .ok first ∧
        first.header = program.header ∧ first.footer = program.footer ∧
        first.body <+: program.body := by
  obtain ⟨program, hprogram⟩ :
      ∃ program,
        (run ("n " ++ "n\n n") .standard coarseMachine archFont 0 0).outcome = .ok program :=
    ok_of_isSome (by decide +kernel)
  have hlaw := a_text_that_goes_on_keeps_its_beginning "n " "n\n n" .standard coarseMachine archFont
    0 0 0 0
  exact ⟨program, hprogram, hlaw.2.2 program hprogram⟩

end PenPlot.Compilation
