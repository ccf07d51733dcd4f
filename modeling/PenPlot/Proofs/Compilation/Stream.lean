-- The stream of a compiled text: the segments of all its glyphs on the paper, one after the
-- other. An outline that is drawn starts with a move, so the body of a program shows the stream
-- and not the glyphs that it came from.
import PenPlot.Proofs.Compilation.Text
import PenPlot.Proofs.Toolpath.Boundary

namespace PenPlot.Compilation

open PenPlot.Geometry
open Toolpath (StartsAfresh)

/-! ## Glyphs that start afresh -/

theorem startsAfresh_map {segments : List (Segment Float)} (f : Point Float → Point Float)
    (h : Font.startsWithMove segments = true) : StartsAfresh (segments.map (·.map f)) := by
  cases segments with
  | nil => exact Or.inl rfl
  | cons s rest =>
    cases s with
    | moveTo target => exact Or.inr ⟨f target, rest.map (·.map f), rfl⟩
    | draw c => cases h
    | closePath => cases h

/-- What is drawn comes from an outline that starts with a move, and still does on the paper. -/
theorem startsAfresh_of_mapOutline {frame : Frame Float} {outline : Font.Outline}
    {glyph : List (Segment Float)} (h : mapOutline frame outline = .ok glyph) :
    StartsAfresh glyph := by
  have hmapped := (mapOutline_ok h).1
  unfold mapOutline at h
  by_cases hwell : outline.isWellFormed = true
  · rw [hmapped]
    exact startsAfresh_map frame.place hwell
  · rw [if_neg hwell] at h
    cases h

theorem startsAfresh_glyphs (text : String) (style : Settings.Style) (font : Font.Handle) :
    ∀ glyph ∈ glyphs text style font, StartsAfresh glyph := by
  intro glyph hglyph
  obtain ⟨p, -, hp⟩ := List.mem_filterMap.mp hglyph
  obtain ⟨outline, hmapped⟩ := mapped_of_drawn hp
  exact startsAfresh_of_mapOutline hmapped

/-! ## The stream of a text -/

/-- The segments of the glyphs of a text on the paper, as one list. -/
def stream (text : String) (style : Settings.Style) (font : Font.Handle) : List (Segment Float) :=
  (glyphs text style font).flatten

/-- The commands for the glyphs of a text are those for its stream. -/
theorem commands_stream (m : Settings.Machine) (text : String) (style : Settings.Style)
    (font : Font.Handle) :
    (Toolpath.traceAll m (glyphs text style font) (.at Toolpath.machineOrigin)).1 =
      (Toolpath.trace m (stream text style font) (.at Toolpath.machineOrigin)).1 := by
  have hafresh := startsAfresh_glyphs text style font
  unfold stream
  cases hglyphs : glyphs text style font with
  | nil => rfl
  | cons first rest =>
    rw [hglyphs] at hafresh
    exact (Toolpath.traceAll_flatten first (List.forall_mem_cons.mp hafresh).2 _).commands

variable {text : String} {style : Settings.Style} {m : Settings.Machine} {font : Font.Handle}
  {start stop : Float} {p : Gcode.Program}

theorem body_run (hrun : (run text style m font start stop).outcome = .ok p) :
    p.body = (Toolpath.trace m (stream text style font) (.at Toolpath.machineOrigin)).1.map
      (Gcode.commandLine m) := by
  obtain ⟨-, rfl⟩ := run_ok hrun
  rw [← commands_stream]
  rfl

/-! ## The law -/

/-- The boundaries of glyphs do not show. Wherever the head is, segments that are none or start
with a move are traced after others as they are together with them, and so any number of such
lists are traced as one. The body of a compiled program is that of the stream of its text, and two
texts of the same stream have the same body, whatever their glyphs, styles and fonts are. -/
theorem glyph_boundaries_do_not_show (m : Settings.Machine) :
    (∀ (a b : List (Segment Float)) (h : Toolpath.Head),
      (b = [] ∨ ∃ target rest, b = .moveTo target :: rest) →
        ((Toolpath.trace m a h).andThen (Toolpath.trace m b)).ShowsAs
          (Toolpath.trace m (a ++ b) h)) ∧
    (∀ (first : List (Segment Float)) (rest : List (List (Segment Float))) (h : Toolpath.Head),
      (∀ glyph ∈ rest, StartsAfresh glyph) →
        (Toolpath.traceAll m (first :: rest) h).ShowsAs
          (Toolpath.trace m (first :: rest).flatten h)) ∧
    (∀ text style font start stop program,
      (run text style m font start stop).outcome = .ok program →
        program.body =
          (Toolpath.trace m (stream text style font) (.at Toolpath.machineOrigin)).1.map
            (Gcode.commandLine m)) ∧
    ∀ text style font start stop program text' style' font' start' stop' program',
      (run text style m font start stop).outcome = .ok program →
      (run text' style' m font' start' stop').outcome = .ok program' →
      stream text style font = stream text' style' font' → program.body = program'.body := by
  refine ⟨fun a b h hb => Toolpath.trace_append a hb h,
    fun first rest h hrest => Toolpath.traceAll_flatten first hrest h,
    fun _ _ _ _ _ _ => body_run, ?_⟩
  intro text style font start stop program text' style' font' start' stop' program' hrun hrun'
    hstream
  rw [body_run hrun, body_run hrun', hstream]

/-- A font in which one character has both bars of another font's two characters. -/
def barsFont : Font.Handle :=
  .ofOutlines 8 4 [⟨"=", 5, [.moveTo ⟨0, 2⟩, .draw (.line ⟨4, 2⟩), .closePath, .moveTo ⟨0, 4⟩,
    .draw (.quad ⟨2, 5⟩ ⟨4, 4⟩)]⟩]

/-- A font of two bars, the first of which takes no room. -/
def barFont : Font.Handle :=
  .ofOutlines 8 4 [⟨"-", 0, [.moveTo ⟨0, 2⟩, .draw (.line ⟨4, 2⟩), .closePath]⟩,
    ⟨"~", 5, [.moveTo ⟨0, 4⟩, .draw (.quad ⟨2, 5⟩ ⟨4, 4⟩)]⟩]

/-- A style without gaps between characters. -/
def tightStyle : Settings.Style :=
  { Settings.Style.standard with letterSpacing := ⟨0, by decide⟩ }

theorem two_bars_are_one_glyph_or_two :
    ∃ p q, (run "=" tightStyle coarseMachine barsFont 0 0).outcome = .ok p ∧
      (run "-~" tightStyle coarseMachine barFont 0 0).outcome = .ok q ∧ p.body = q.body := by
  obtain ⟨p, hp⟩ : ∃ p, (run "=" tightStyle coarseMachine barsFont 0 0).outcome = .ok p :=
    ok_of_isSome (by decide +kernel)
  obtain ⟨q, hq⟩ : ∃ q, (run "-~" tightStyle coarseMachine barFont 0 0).outcome = .ok q :=
    ok_of_isSome (by decide +kernel)
  have hstream : stream "=" tightStyle barsFont = stream "-~" tightStyle barFont := by
    decide +kernel
  have hlaw := glyph_boundaries_do_not_show coarseMachine
  exact ⟨p, q, hp, hq, hlaw.2.2.2 _ _ _ _ _ p _ _ _ _ _ q hp hq hstream⟩

end PenPlot.Compilation
