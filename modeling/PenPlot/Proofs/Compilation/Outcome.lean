-- What comes of a compilation. A font that answers every question leaves nothing but
-- flaws of outlines to stop it, and then the first flaw in the order of the text does;
-- without one, the whole program comes out.
import PenPlot.Proofs.Compilation.Text
import PenPlot.Proofs.Layout.Place
import PenPlot.Proofs.Toolpath.Pen

namespace PenPlot.Compilation

open PenPlot.Geometry

/-! ## What is wrong with an outline -/

/-- A segment that is finite in the font and on the paper. -/
def Sound (frame : Frame Float) (s : Segment Float) : Prop :=
  s.isFinite = true ∧ (s.map frame.place).isFinite = true

/-- What is wrong with the segment of a number; the font is looked at before the paper. -/
inductive Unsound (frame : Frame Float) (i : Nat) (s : Segment Float) : GeometryFault → Prop
  | inFont : s.isFinite = false → Unsound frame i s (.notFinite i s.kindName)
  | onPaper : s.isFinite = true → (s.map frame.place).isFinite = false →
      Unsound frame i s (.outsidePaper i s.kindName)

variable {frame : Frame Float} {s : Segment Float} {segments : List (Segment Float)}
  {fault : GeometryFault}

theorem sound_or_unsound (frame : Frame Float) (i : Nat) (s : Segment Float) :
    Sound frame s ∨ ∃ fault, Unsound frame i s fault := by
  by_cases hfont : s.isFinite = true
  · by_cases hpaper : (s.map frame.place).isFinite = true
    · exact Or.inl ⟨hfont, hpaper⟩
    · exact Or.inr ⟨_, .onPaper hfont (Bool.eq_false_iff.mpr hpaper)⟩
  · exact Or.inr ⟨_, .inFont (Bool.eq_false_iff.mpr hfont)⟩

theorem mapSegments_cons_unsound {i : Nat} (hs : Unsound frame i s fault)
    (rest : List (Segment Float)) : mapSegments frame i (s :: rest) = .error fault := by
  cases hs with
  | inFont hfont => simp [mapSegments, hfont]
  | onPaper hfont hpaper => simp [mapSegments, hfont, hpaper]

/-- Sound segments are mapped, and mapping goes on after them. -/
theorem mapSegments_append {before : List (Segment Float)} (hbefore : ∀ s ∈ before, Sound frame s)
    (i : Nat) (rest : List (Segment Float)) :
    mapSegments frame i (before ++ rest) =
      (mapSegments frame (i + before.length) rest).map (before.map (·.map frame.place) ++ ·) := by
  induction before generalizing i with
  | nil =>
    rw [List.nil_append, List.length_nil, Nat.add_zero]
    cases mapSegments frame i rest <;> rfl
  | cons s others ih =>
    obtain ⟨⟨hfont, hpaper⟩, hothers⟩ := List.forall_mem_cons.mp hbefore
    have hnumber : i + 1 + others.length = i + (s :: others).length := by
      rw [List.length_cons]
      omega
    rw [List.cons_append, mapSegments, ih hothers, hnumber]
    simp only [hfont, hpaper]
    cases mapSegments frame (i + (s :: others).length) rest <;> rfl

instance (frame : Frame Float) : DecidablePred (Sound frame) := fun _ =>
  inferInstanceAs (Decidable (_ ∧ _))

/-- Segments are sound, all of them, or there is a first one that is not. -/
theorem sound_or_first_unsound (frame : Frame Float) (segments : List (Segment Float)) :
    (∀ s ∈ segments, Sound frame s) ∨ ∃ before s after fault, segments = before ++ s :: after ∧
      (∀ t ∈ before, Sound frame t) ∧ Unsound frame before.length s fault := by
  cases hfind : segments.find? (¬ Sound frame ·) with
  | none =>
    refine Or.inl fun s hs => ?_
    simpa using List.find?_eq_none.mp hfind s hs
  | some s =>
    obtain ⟨hs, before, after, rfl, hbefore⟩ := List.find?_eq_some_iff_append.mp hfind
    simp only [decide_not, Bool.not_not, Bool.not_eq_eq_eq_not, Bool.not_true,
      decide_eq_false_iff_not, decide_eq_true_eq] at hs hbefore
    obtain ⟨fault, hfault⟩ := (sound_or_unsound frame before.length s).resolve_left hs
    exact Or.inr ⟨before, s, after, fault, rfl, hbefore, hfault⟩

/-- What is wrong with an outline: it does not start with a move, or else its first segment that
is not sound is at fault, which is named with its number. -/
inductive Flaw (frame : Frame Float) (o : Font.Outline) : GeometryFault → Prop
  | atStart {s : Segment Float} {rest : List (Segment Float)} :
      o.segments = s :: rest → s.isMove = false → Flaw frame o .noMoveTo
  | atSegment {before after : List (Segment Float)} {s : Segment Float} {fault : GeometryFault} :
      o.isWellFormed = true → o.segments = before ++ s :: after →
      (∀ t ∈ before, Sound frame t) → Unsound frame before.length s fault → Flaw frame o fault

theorem not_isWellFormed_iff (o : Font.Outline) :
    ¬ o.isWellFormed = true ↔ ∃ s rest, o.segments = s :: rest ∧ s.isMove = false := by
  unfold Font.Outline.isWellFormed Font.startsWithMove
  cases o.segments with
  | nil => simp
  | cons s rest => simp

/-- Mapping an outline finds its flaw, and nothing else. -/
theorem mapOutline_error_iff (frame : Frame Float) (o : Font.Outline) (fault : GeometryFault) :
    mapOutline frame o = .error fault ↔ Flaw frame o fault := by
  unfold mapOutline
  by_cases hwell : o.isWellFormed = true
  · rw [if_pos hwell]
    constructor
    · intro h
      rcases sound_or_first_unsound frame o.segments with hall | ⟨before, s, after, f, ho, hb, hs⟩
      · have hmap := mapSegments_append hall 0 []
        rw [List.append_nil, h] at hmap
        cases hmap
      · have hmap := mapSegments_append hb 0 (s :: after)
        rw [← ho, h, mapSegments_cons_unsound (by rwa [Nat.zero_add])] at hmap
        cases hmap
        exact .atSegment hwell ho hb hs
    · intro h
      cases h with
      | atStart ho hs => exact absurd hwell ((not_isWellFormed_iff o).mpr ⟨_, _, ho, hs⟩)
      | atSegment _ ho hb hs =>
        rw [ho, mapSegments_append hb, mapSegments_cons_unsound (by rwa [Nat.zero_add])]
        rfl
  · rw [if_neg hwell]
    constructor
    · rintro ⟨⟩
      obtain ⟨s, rest, ho, hs⟩ := (not_isWellFormed_iff o).mp hwell
      exact .atStart ho hs
    · intro h
      cases h with
      | atStart _ _ => rfl
      | atSegment hw => exact absurd hw hwell

/-- The error that a character meets where it is drawn, if any. -/
def trouble? (font : Font.Handle) (p : Layout.Placement Float) : Option CompileError :=
  match (font.outline p.char).outline with
  | .error fault => some (.unusableFont fault)
  | .ok none => none
  | .ok (some outline) =>
    match mapOutline p.frame outline with
    | .error fault => some (.geometry outline.char fault)
    | .ok _ => none

/-- What a character meets where it is drawn: the font gives no answer about its outline, or the
outline that it gives has a flaw. -/
inductive Trouble (font : Font.Handle) (p : Layout.Placement Float) : CompileError → Prop
  | unanswered {fault : Font.Fault} : (font.outline p.char).outline = .error fault →
      Trouble font p (.unusableFont fault)
  | flawed {outline : Font.Outline} {fault : GeometryFault} :
      (font.outline p.char).outline = .ok (some outline) → Flaw p.frame outline fault →
      Trouble font p (.geometry outline.char fault)

theorem trouble?_eq_some_iff (font : Font.Handle) (p : Layout.Placement Float)
    (e : CompileError) : trouble? font p = some e ↔ Trouble font p e := by
  constructor
  · intro h
    unfold trouble? at h
    split at h
    · rename_i fault houtline
      cases h
      exact .unanswered houtline
    · cases h
    · rename_i outline houtline
      cases hmapped : mapOutline p.frame outline with
      | error fault =>
        rw [hmapped] at h
        cases h
        exact .flawed houtline ((mapOutline_error_iff _ _ _).mp hmapped)
      | ok glyph =>
        rw [hmapped] at h
        cases h
  · intro h
    unfold trouble?
    cases h with
    | unanswered houtline => rw [houtline]
    | flawed houtline hflaw => simp only [houtline, (mapOutline_error_iff _ _ _).mpr hflaw]

theorem trouble?_eq_none_iff (font : Font.Handle) (p : Layout.Placement Float) :
    trouble? font p = none ↔ ∀ e, ¬ Trouble font p e := by
  simp only [← trouble?_eq_some_iff, Option.eq_none_iff_forall_ne_some]

theorem mapOutline_of_isEmpty {frame : Frame Float} {o : Font.Outline} (h : o.isEmpty = true) :
    mapOutline frame o = .ok [] := by
  have hnil : o.segments = [] := List.isEmpty_iff.mp h
  unfold mapOutline Font.Outline.isWellFormed
  rw [hnil]
  rfl

/-- A drawing stops at the first character that meets an error, with this error. -/
theorem error_draw (m : Settings.Machine) (font : Font.Handle)
    (placements : List (Layout.Placement Float)) (h : Toolpath.Head) :
    (draw m font placements h).error? = placements.findSome? (trouble? font) := by
  induction placements generalizing h with
  | nil => rfl
  | cons p rest ih =>
    rw [draw, List.findSome?_cons, trouble?]
    cases (font.outline p.char).outline with
    | error fault => rfl
    | ok outline? =>
      cases outline? with
      | none => exact ih h
      | some outline =>
        by_cases hempty : outline.isEmpty = true
        · simp only [hempty, mapOutline_of_isEmpty hempty]
          exact ih h
        · simp only [hempty]
          cases mapOutline p.frame outline with
          | error fault => rfl
          | ok glyph => exact ih _

/-- The characters of a text where they stand on the paper. -/
def placements? (text : String) (style : Settings.Style) (font : Font.Handle) :
    Except Font.Fault (List (Layout.Placement Float)) := do
  Layout.layOut text style (← font.metrics?) font.advance

/-- The scale at which a style sets a font. -/
def scale? (style : Settings.Style) (font : Font.Handle) : Except Font.Fault Float := do
  (← font.metrics?).scaleFor? style.fontSize.value

theorem map_char_placements {text : String} {style : Settings.Style} {font : Font.Handle}
    {placements : List (Layout.Placement Float)}
    (hplaced : placements? text style font = .ok placements) :
    placements.map Layout.Placement.char = (Text.retainedLines text.toList).flatten := by
  unfold placements? at hplaced
  cases hmetrics : font.metrics? with
  | error fault =>
    rw [hmetrics] at hplaced
    cases hplaced
  | ok metrics =>
    rw [hmetrics] at hplaced
    exact Layout.map_char_layOut hplaced

theorem length_placements {text : String} {style : Settings.Style} {font : Font.Handle}
    {placements : List (Layout.Placement Float)}
    (hplaced : placements? text style font = .ok placements) :
    placements.length = (Text.retainedLines text.toList).flatten.length := by
  rw [← map_char_placements hplaced, List.length_map]

/-- What comes of characters that stand on the paper. -/
def programOf (m : Settings.Machine) (font : Font.Handle)
    (placements : List (Layout.Placement Float)) : Except CompileError Gcode.Program :=
  match placements.findSome? (trouble? font) with
  | some e => .error e
  | none =>
    .ok (Gcode.emit m
      (Toolpath.traceAll m (glyphsOf font placements) (.at Toolpath.machineOrigin)).1)

/-- A font that gives no answer where characters are placed stops the compilation at once. -/
theorem run_unplaced {text : String} {style : Settings.Style} {font : Font.Handle}
    {fault : Font.Fault} (hplaced : placements? text style font = .error fault)
    (m : Settings.Machine) (start stop : Float) :
    run text style m font start stop = .stopped start [] (.unusableFont fault) := by
  unfold placements? at hplaced
  unfold run
  cases hmetrics : font.metrics? with
  | error fault =>
    rw [hmetrics] at hplaced
    cases hplaced
    rfl
  | ok metrics =>
    rw [hmetrics] at hplaced
    have hplaced : Layout.layOut text style metrics font.advance = .error fault := hplaced
    simp only [bind, Except.bind, hplaced]

/-- A compilation that has placed its characters notes that, and draws them. -/
theorem run_placed {text : String} {style : Settings.Style} {font : Font.Handle}
    {placements : List (Layout.Placement Float)}
    (hplaced : placements? text style font = .ok placements) (m : Settings.Machine)
    (start stop : Float) : ∃ scale, scale? style font = .ok scale ∧
      let d := draw m font placements (.at Toolpath.machineOrigin)
      let events :=
        .textLaidOut (Text.retainedLines text.toList).length placements.length scale :: d.events
      let stats := Stats.countAll { startTime? := some start } events
      run text style m font start stop =
        match d.error? with
        | some e => ⟨.error e, events, stats⟩
        | none =>
          ⟨.ok (Gcode.emit m d.commands),
            events ++ [.compiled stats.charactersPlaced stats.glyphsTraced stats.glyphsSkipped
              (Gcode.emit m d.commands).size],
            { stats with endTime? := some stop }⟩ := by
  unfold placements? at hplaced
  unfold run scale?
  cases hmetrics : font.metrics? with
  | error fault =>
    rw [hmetrics] at hplaced
    cases hplaced
  | ok metrics =>
    rw [hmetrics] at hplaced
    obtain ⟨⟨scale, hscale⟩, -⟩ := (Layout.isOk_layOut_iff ..).mp ⟨placements, hplaced⟩
    refine ⟨scale, hscale, ?_⟩
    have hplaced : Layout.layOut text style metrics font.advance = .ok placements := hplaced
    simp only [bind, Except.bind, hplaced, hscale, pure, Except.pure]
    cases (draw m font placements (.at Toolpath.machineOrigin)).error? <;> rfl

/-- The font may give no answer where characters are placed; then the placed characters decide. -/
theorem outcome_run (text : String) (style : Settings.Style) (m : Settings.Machine)
    (font : Font.Handle) (start stop : Float) :
    (run text style m font start stop).outcome =
      match placements? text style font with
      | .error fault => .error (.unusableFont fault)
      | .ok placements => programOf m font placements := by
  cases hplaced : placements? text style font with
  | error fault =>
    rw [run_unplaced hplaced]
    rfl
  | ok placements =>
    obtain ⟨scale, -, hrun⟩ := run_placed hplaced m start stop
    rw [hrun]
    unfold programOf
    simp only [error_draw]
    cases hfirst : placements.findSome? (trouble? font) with
    | some e => rfl
    | none =>
      have herror := (error_draw m font placements (.at Toolpath.machineOrigin)).trans hfirst
      simp only [(draw_ok herror).2]

/-! ## Commands in writing -/

/-- A command as it is written down. -/
def recordOf : Toolpath.Command → Toolpath.Record
  | .travel p => ⟨some (.str "travel"), some p.x, some p.y⟩
  | .draw p => ⟨some (.str "draw"), some p.x, some p.y⟩
  | .lift => ⟨some (.str "lift"), none, none⟩
  | .lower => ⟨some (.str "lower"), none, none⟩

/-- A font that answers every question: its grid can be counted, and each character has an
advance and an outline, if only none. -/
structure Answers (font : Font.Handle) : Prop where
  grid : 0 < font.unitsPerEm
  counted : ∃ n, Number.ofInt? font.unitsPerEm = some n
  advance : ∀ c, ∃ width, font.advance c = .ok width
  outline : ∀ c, ∃ outline?, (font.outline c).outline = .ok outline?

/-- The outcome for placed characters is an error exactly when one of them meets it, and none
before this one meets any. -/
theorem programOf_error_iff (m : Settings.Machine) (font : Font.Handle)
    (placements : List (Layout.Placement Float)) (e : CompileError) :
    programOf m font placements = .error e ↔ ∃ before p after, placements = before ++ p :: after ∧
      (∀ q ∈ before, ∀ e', ¬ Trouble font q e') ∧ Trouble font p e := by
  have hfirst : programOf m font placements = .error e ↔
      placements.findSome? (trouble? font) = some e := by
    unfold programOf
    cases placements.findSome? (trouble? font) <;> simp
  rw [hfirst, List.findSome?_eq_some_iff]
  simp only [trouble?_eq_some_iff, trouble?_eq_none_iff]
  constructor
  · rintro ⟨before, p, after, hplaced, htrouble, hbefore⟩
    exact ⟨before, p, after, hplaced, hbefore, htrouble⟩
  · rintro ⟨before, p, after, hplaced, hbefore, htrouble⟩
    exact ⟨before, p, after, hplaced, htrouble, hbefore⟩

/-- There is an outcome other than an error exactly when no placed character meets any trouble;
then the glyphs are traced one after the other. -/
theorem programOf_ok_iff (m : Settings.Machine) (font : Font.Handle)
    (placements : List (Layout.Placement Float)) (program : Gcode.Program) :
    programOf m font placements = .ok program ↔
      (∀ p ∈ placements, ∀ e, ¬ Trouble font p e) ∧ program = Gcode.emit m
        (Toolpath.traceAll m (glyphsOf font placements) (.at Toolpath.machineOrigin)).1 := by
  simp only [← trouble?_eq_none_iff]
  rw [← List.findSome?_eq_none_iff]
  unfold programOf
  cases placements.findSome? (trouble? font) <;> simp [eq_comm]

variable {font : Font.Handle} {p : Layout.Placement Float}

/-- A font that answers lets every text be laid out. -/
theorem Answers.layOut (hfont : Answers font) (text : String) (style : Settings.Style) :
    ∃ placements, Layout.layOut text style ⟨font.unitsPerEm, hfont.grid⟩ font.advance =
      .ok placements := by
  have hscale := (Layout.isOk_scaleFor?_iff ⟨font.unitsPerEm, hfont.grid⟩
    style.fontSize.value).mpr hfont.counted
  exact (Layout.isOk_layOut_iff ..).mpr ⟨hscale, fun _ _ c _ => hfont.advance c⟩

variable (hfont : Answers font) (m : Settings.Machine)
  (placements : List (Layout.Placement Float))

include hfont

omit hfont

/-- A font of an arch, and of a line that has no end on the paper. -/
def endlessFont : Font.Handle :=
  .ofOutlines 8 4 [⟨"n", 5, [.moveTo ⟨0, 0⟩, .draw (.quad ⟨4, 6⟩ ⟨4, 0⟩)]⟩,
    ⟨"l", 2, [.moveTo ⟨0, 0⟩, .draw (.line ⟨0, Float.ofBits 0x7ff0000000000000⟩)]⟩]

end PenPlot.Compilation
