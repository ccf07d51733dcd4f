-- What a compilation draws: the glyphs of the text on the paper, in the order of its
-- characters. A program that comes out carries out their trace and nothing else.
import PenPlot.Compilation
import PenPlot.Proofs.Toolpath.Motion

namespace PenPlot.Compilation

open PenPlot.Geometry

/-! ## The glyphs on the paper -/

/-- The segments that a character puts on the paper, if it has an outline to draw. -/
def drawn? (font : Font.Handle) (p : Layout.Placement Float) : Option (List (Segment Float)) :=
  match (font.outline p.char).outline with
  | .ok (some outline) =>
    if outline.isEmpty then none else (mapOutline p.frame outline).toOption
  | _ => none

/-- The glyphs that characters put on the paper; those without one are skipped. -/
def glyphsOf (font : Font.Handle) (placements : List (Layout.Placement Float)) :
    List (List (Segment Float)) :=
  placements.filterMap (drawn? font)

/-- Where the characters of a text stand; nowhere if it cannot be laid out. -/
def placed (text : String) (style : Settings.Style) (font : Font.Handle) :
    List (Layout.Placement Float) :=
  match (do Layout.layOut text style (← font.metrics?) font.advance) with
  | .ok placements => placements
  | .error _ => []

/-- The glyphs of a text in a style. -/
def glyphs (text : String) (style : Settings.Style) (font : Font.Handle) :
    List (List (Segment Float)) :=
  glyphsOf font (placed text style font)

/-- What is put on the paper is finite before and after it is put there. -/
theorem mapSegments_ok {frame : Frame Float} {segments : List (Segment Float)} {i : Nat}
    {mapped : List (Segment Float)} (h : mapSegments frame i segments = .ok mapped) :
    mapped = segments.map (·.map frame.place) ∧
      ∀ s ∈ segments, s.isFinite = true ∧ (s.map frame.place).isFinite = true := by
  induction segments generalizing i mapped with
  | nil =>
    cases h
    exact ⟨rfl, fun s hs => by cases hs⟩
  | cons s rest ih =>
    rw [mapSegments] at h
    by_cases hbefore : s.isFinite = true
    · by_cases hafter : (s.map frame.place).isFinite = true
      · simp only [hbefore, hafter, Bool.not_true, Bool.false_eq_true, if_false] at h
        cases hrest : mapSegments frame (i + 1) rest with
        | error fault =>
          rw [hrest] at h
          cases h
        | ok others =>
          rw [hrest] at h
          cases h
          obtain ⟨hmap, hfinite⟩ := ih hrest
          refine ⟨congrArg _ hmap, ?_⟩
          intro t ht
          rcases List.mem_cons.mp ht with rfl | hothers
          · exact ⟨hbefore, hafter⟩
          · exact hfinite t hothers
      · simp [hbefore, hafter] at h
    · simp [hbefore] at h

theorem mapOutline_ok {frame : Frame Float} {outline : Font.Outline}
    {mapped : List (Segment Float)} (h : mapOutline frame outline = .ok mapped) :
    mapped = outline.segments.map (·.map frame.place) ∧
      ∀ s ∈ outline.segments, s.isFinite = true ∧ (s.map frame.place).isFinite = true := by
  unfold mapOutline at h
  by_cases hwell : outline.isWellFormed = true
  · rw [if_pos hwell] at h
    exact mapSegments_ok h
  · rw [if_neg hwell] at h
    cases h

/-- A character is drawn if it has an outline that is not empty and can be mapped. -/
theorem mapped_of_drawn {font : Font.Handle} {p : Layout.Placement Float}
    {glyph : List (Segment Float)} (h : drawn? font p = some glyph) :
    ∃ outline, mapOutline p.frame outline = .ok glyph := by
  unfold drawn? at h
  split at h
  · rename_i outline _
    by_cases hempty : outline.isEmpty = true
    · rw [if_pos hempty] at h
      cases h
    · rw [if_neg hempty] at h
      refine ⟨outline, ?_⟩
      cases hmapped : mapOutline p.frame outline with
      | error fault =>
        rw [hmapped] at h
        cases h
      | ok mapped =>
        rw [hmapped] at h
        cases h
        rfl
  · cases h

/-- The glyphs on the paper are finite. -/
theorem glyphsOf_finite (font : Font.Handle) (placements : List (Layout.Placement Float)) :
    ∀ glyph ∈ glyphsOf font placements, ∀ s ∈ glyph, s.isFinite = true := by
  intro glyph hglyph s hs
  obtain ⟨p, -, hp⟩ := List.mem_filterMap.mp hglyph
  obtain ⟨outline, hmapped⟩ := mapped_of_drawn hp
  obtain ⟨rfl, hfinite⟩ := mapOutline_ok hmapped
  obtain ⟨t, ht, rfl⟩ := List.mem_map.mp hs
  exact (hfinite t ht).2

/-! ## What the commands are -/

/-- The outline of a character, if it has one, has finite coordinates in the font and on the
paper. -/
def Accepted (font : Font.Handle) (p : Layout.Placement Float) : Prop :=
  ∀ outline, (font.outline p.char).outline = .ok (some outline) →
    ∀ s ∈ outline.segments, s.isFinite = true ∧ (s.map p.frame.place).isFinite = true

/-- A character that meets no error is accepted; it is traced if it is drawn, and otherwise
skipped, and then the others are drawn. -/
theorem draw_cons {m : Settings.Machine} {font : Font.Handle} {p : Layout.Placement Float}
    {rest : List (Layout.Placement Float)} {h : Toolpath.Head}
    (herror : (draw m font (p :: rest) h).error? = none) :
    Accepted font p ∧
      ((drawn? font p = none ∧ (draw m font rest h).error? = none ∧
          (draw m font (p :: rest) h).commands = (draw m font rest h).commands) ∨
        ∃ glyph, drawn? font p = some glyph ∧
          (draw m font rest (Toolpath.trace m glyph h).2).error? = none ∧
          (draw m font (p :: rest) h).commands = (Toolpath.trace m glyph h).1 ++
            (draw m font rest (Toolpath.trace m glyph h).2).commands) := by
  unfold Accepted drawn?
  rw [draw] at herror ⊢
  cases hfound : (font.outline p.char).outline with
  | error fault =>
    simp only [hfound] at herror
    cases herror
  | ok outline? =>
    simp only [hfound] at herror ⊢
    cases outline? with
    | none =>
      exact ⟨fun outline ho => (by cases ho), Or.inl ⟨rfl, herror, rfl⟩⟩
    | some outline =>
      by_cases hempty : outline.isEmpty = true
      · simp only [hempty, if_true] at herror ⊢
        refine ⟨fun o ho s hs => ?_, Or.inl ⟨trivial, herror, rfl⟩⟩
        cases ho
        rw [List.isEmpty_iff.mp hempty] at hs
        cases hs
      · simp only [hempty] at herror ⊢
        cases hmapped : mapOutline p.frame outline with
        | error fault =>
          simp only [hmapped] at herror
          cases herror
        | ok glyph =>
          simp only [hmapped] at herror ⊢
          refine ⟨fun o ho => ?_, Or.inr ⟨glyph, rfl, herror, rfl⟩⟩
          cases ho
          exact (mapOutline_ok hmapped).2

/-- Drawing that meets no error accepts every character, and traces the glyphs one after the
other. -/
theorem draw_ok {m : Settings.Machine} {font : Font.Handle}
    {placements : List (Layout.Placement Float)} {h : Toolpath.Head}
    (herror : (draw m font placements h).error? = none) :
    (∀ p ∈ placements, Accepted font p) ∧
      (draw m font placements h).commands =
        (Toolpath.traceAll m (glyphsOf font placements) h).1 := by
  induction placements generalizing h with
  | nil => exact ⟨fun p hp => (by cases hp), rfl⟩
  | cons p rest ih =>
    unfold glyphsOf
    obtain ⟨haccepted, ⟨hdrawn, hrest, hcommands⟩ | ⟨glyph, hdrawn, hrest, hcommands⟩⟩ :=
      draw_cons herror
    · obtain ⟨hothers, htrace⟩ := ih hrest
      rw [List.filterMap_cons_none hdrawn, hcommands]
      exact ⟨List.forall_mem_cons.mpr ⟨haccepted, hothers⟩, htrace⟩
    · obtain ⟨hothers, htrace⟩ := ih hrest
      rw [List.filterMap_cons_some hdrawn, hcommands, htrace]
      exact ⟨List.forall_mem_cons.mpr ⟨haccepted, hothers⟩, rfl⟩

/-- A program that comes out has accepted all characters of its text, and carries out the
trace of its glyphs. -/
theorem run_ok {text : String} {style : Settings.Style} {m : Settings.Machine}
    {font : Font.Handle} {start stop : Float} {p : Gcode.Program}
    (hrun : (run text style m font start stop).outcome = .ok p) :
    (∀ q ∈ placed text style font, Accepted font q) ∧
      p = Gcode.emit m
        (Toolpath.traceAll m (glyphs text style font) (.at Toolpath.machineOrigin)).1 := by
  unfold glyphs placed
  unfold run at hrun
  cases hmetrics : font.metrics? with
  | error fault =>
    rw [hmetrics] at hrun
    cases hrun
  | ok metrics =>
    cases hplaced : Layout.layOut text style metrics font.advance with
    | error fault =>
      simp only [hmetrics, bind, Except.bind, hplaced] at hrun
      cases hrun
    | ok placements =>
      simp only [hmetrics, bind, Except.bind, hplaced] at hrun ⊢
      cases hscale : metrics.scaleFor? style.fontSize.value with
      | error fault =>
        simp only [hscale] at hrun
        cases hrun
      | ok scale =>
        simp only [hscale, pure, Except.pure] at hrun
        cases hdraw : (draw m font placements (.at Toolpath.machineOrigin)).error? with
        | some e =>
          rw [hdraw] at hrun
          cases hrun
        | none =>
          rw [hdraw] at hrun
          cases hrun
          obtain ⟨haccepted, hcommands⟩ := draw_ok hdraw
          rw [hcommands]
          exact ⟨haccepted, rfl⟩

end PenPlot.Compilation
