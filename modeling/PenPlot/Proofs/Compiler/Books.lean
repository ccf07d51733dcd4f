-- The books of a compilation: its journal and its statistics. Each placed character has one
-- entry in the journal, that it was traced or that it was skipped, and the statistics are the
-- sums of the entries, whether the compilation comes to its end or stops at a flawed outline.
import PenPlot.Compiler
import PenPlot.Proofs.Compilation.Outcome

namespace PenPlot

/-! ## Events with their fields -/

/-- The events that are noted with their fields. That a font lacks a component is not among them:
it is noted in words alone, where outlines are drawn, and not by the compiler. -/
def Event.noted (events : List Event) : List Event := events.filter fun e => !e.isPlain

theorem Event.noted_append (a b : List Event) : noted (a ++ b) = noted a ++ noted b :=
  List.filter_append a b

theorem Event.noted_after_missing (names : List String) {e : Event} (h : e.isPlain = false) :
    noted (names.map Event.componentMissing ++ [e]) = [e] := by
  have hmissing : noted (names.map Event.componentMissing) = [] := by
    rw [noted, List.filter_eq_nil_iff]
    intro e he
    obtain ⟨name, -, rfl⟩ := List.mem_map.mp he
    exact Bool.false_ne_true
  rw [noted_append, hmissing, List.nil_append]
  exact List.filter_cons_of_pos (by simp [h])

theorem Stats.count_plain (s : Stats) {e : Event} (h : e.isPlain = true) : s.count e = s := by
  cases e with
  | componentMissing name => rfl
  | _ => cases h

/-- Only events with their fields are counted. -/
theorem Stats.countAll_noted (s : Stats) (events : List Event) :
    s.countAll (Event.noted events) = s.countAll events := by
  unfold countAll Event.noted
  induction events generalizing s with
  | nil => rfl
  | cons e rest ih =>
    cases hplain : e.isPlain with
    | true =>
      rw [List.filter_cons_of_neg (by simp [hplain]), ih, List.foldl_cons, s.count_plain hplain]
    | false =>
      rw [List.filter_cons_of_pos (by simp [hplain]), List.foldl_cons, ih, List.foldl_cons]

namespace Compilation

open PenPlot.Geometry

/-! ## Entries -/

/-- Whether a font has nothing to draw for a character: no outline, or an empty one. -/
def lacksOutline (font : Font.Handle) (c : Char) : Bool :=
  match (font.outline c).outline with
  | .ok none => true
  | .ok (some outline) => outline.isEmpty
  | .error _ => false

/-- The motion that draws characters from the origin of the machine. -/
def motionOf (m : Settings.Machine) (font : Font.Handle)
    (placements : List (Layout.Placement Float)) : Toolpath.Motion :=
  Toolpath.traceAll m (glyphsOf font placements) (.at Toolpath.machineOrigin)

/-- The entry of a character that the head comes to: why it is skipped, or how many commands trace
it and how many contours it has. -/
inductive Entry (m : Settings.Machine) (font : Font.Handle) (head : Toolpath.Head)
    (p : Layout.Placement Float) : Event → Prop
  | unmapped (houtline : (font.outline p.char).outline = .ok none) :
      Entry m font head p (.glyphSkipped (String.singleton p.char) "no glyph mapping")
  | empty {outline : Font.Outline} (houtline : (font.outline p.char).outline = .ok (some outline))
      (hempty : outline.isEmpty = true) :
      Entry m font head p (.glyphSkipped (String.singleton p.char) "empty outline")
  | traced {outline : Font.Outline} {glyph : List (Segment Float)}
      (houtline : (font.outline p.char).outline = .ok (some outline))
      (hdrawn : outline.isEmpty = false) (hmapped : mapOutline p.frame outline = .ok glyph) :
      Entry m font head p (.glyphTraced (String.singleton p.char)
        (Toolpath.trace m glyph head).1.length outline.contourCount)

/-- One entry for each character, in order. -/
inductive Entries (m : Settings.Machine) (font : Font.Handle) :
    List (Layout.Placement Float) → List Event → Prop
  | none : Entries m font [] []
  | more {before : List (Layout.Placement Float)} {entries : List Event}
      {p : Layout.Placement Float} {e : Event} (hbefore : Entries m font before entries)
      (he : Entry m font (motionOf m font before).2 p e) :
      Entries m font (before ++ [p]) (entries ++ [e])

variable {m : Settings.Machine} {font : Font.Handle} {p : Layout.Placement Float}
  {head : Toolpath.Head} {e : Event} {placements before : List (Layout.Placement Float)}
  {entries : List Event}

/-! ## Drawing is kept account of -/

theorem glyphsOf_append (font : Font.Handle) (a b : List (Layout.Placement Float)) :
    glyphsOf font (a ++ b) = glyphsOf font a ++ glyphsOf font b :=
  List.filterMap_append

theorem motionOf_concat (m : Settings.Machine) (font : Font.Handle)
    (before : List (Layout.Placement Float)) (p : Layout.Placement Float) :
    motionOf m font (before ++ [p]) =
      (motionOf m font before).andThen (Toolpath.traceAll m (glyphsOf font [p])) := by
  unfold motionOf
  rw [glyphsOf_append, Toolpath.traceAll_append]

theorem glyphsOf_lacking (h : lacksOutline font p.char = true) : glyphsOf font [p] = [] := by
  unfold lacksOutline at h
  refine List.filterMap_cons_none ?_
  unfold drawn?
  cases houtline : (font.outline p.char).outline with
  | error fault => rfl
  | ok outline? =>
    rw [houtline] at h
    cases outline? with
    | none => rfl
    | some outline => exact if_pos h

theorem glyphsOf_mapped {outline : Font.Outline} {glyph : List (Segment Float)}
    (houtline : (font.outline p.char).outline = .ok (some outline))
    (hempty : outline.isEmpty = false) (hmapped : mapOutline p.frame outline = .ok glyph) :
    glyphsOf font [p] = [glyph] := by
  have hdrawn : drawn? font p = some glyph := by
    unfold drawn?
    simp only [houtline, hempty, hmapped]
    rfl
  exact List.filterMap_cons_some hdrawn

/-- A character that meets no error is drawn, if only by nothing, and leaves its entry. -/
theorem draw_entry (htrouble : trouble? font p = none) (rest : List (Layout.Placement Float))
    (head : Toolpath.Head) : ∃ events e, Event.noted events = [e] ∧ Entry m font head p e ∧
      draw m font (p :: rest) head =
        (draw m font rest (Toolpath.traceAll m (glyphsOf font [p]) head).2).after
          (Toolpath.traceAll m (glyphsOf font [p]) head).1 events := by
  rw [trouble?] at htrouble
  rw [draw]
  cases houtline : (font.outline p.char).outline with
  | error fault =>
    rw [houtline] at htrouble
    cases htrouble
  | ok outline? =>
    cases outline? with
    | none =>
      rw [glyphsOf_lacking (by simp only [lacksOutline, houtline])]
      exact ⟨_, _, Event.noted_after_missing _ rfl, .unmapped houtline, rfl⟩
    | some outline =>
      cases hempty : outline.isEmpty with
      | true =>
        rw [glyphsOf_lacking (by simp only [lacksOutline, houtline, hempty])]
        simp only [hempty, if_true]
        exact ⟨_, _, Event.noted_after_missing _ rfl, .empty houtline hempty, rfl⟩
      | false =>
        cases hmapped : mapOutline p.frame outline with
        | error fault =>
          simp only [houtline, hmapped] at htrouble
          cases htrouble
        | ok glyph =>
          rw [glyphsOf_mapped houtline hempty hmapped]
          simp only [hempty, hmapped, Bool.false_eq_true, if_false, Toolpath.traceAll,
            Toolpath.Motion.andThen, List.append_nil]
          exact ⟨_, _, Event.noted_after_missing _ rfl, .traced houtline hempty hmapped, rfl⟩

theorem Drawing.after_after (a b : List Toolpath.Command) (x y : List Event) (d : Drawing) :
    (d.after b y).after a x = d.after (a ++ b) (x ++ y) := by
  simp [Drawing.after]

/-- Characters that meet no error are drawn one after the other, and leave an entry each. -/
theorem draw_entries (hbefore : ∀ p ∈ before, trouble? font p = none)
    (rest : List (Layout.Placement Float)) : ∃ events, Entries m font before (Event.noted events) ∧
      draw m font (before ++ rest) (.at Toolpath.machineOrigin) =
        (draw m font rest (motionOf m font before).2).after (motionOf m font before).1 events := by
  induction before using List.reverseRecOn generalizing rest with
  | nil => exact ⟨[], .none, rfl⟩
  | append_singleton before p ih =>
    obtain ⟨events, hentries, hdraw⟩ :=
      ih (fun q hq => hbefore q (List.mem_append_left _ hq)) (p :: rest)
    obtain ⟨more, e, hmore, he, hnext⟩ := draw_entry (m := m)
      (hbefore p (List.mem_append_right _ List.mem_cons_self)) rest (motionOf m font before).2
    refine ⟨events ++ more, ?_, ?_⟩
    · rw [Event.noted_append, hmore]
      exact .more hentries he
    · rw [List.append_assoc, List.singleton_append, hdraw, hnext, Drawing.after_after,
        motionOf_concat]
      rfl

/-- A flawed outline ends the drawing with its error, which is noted. -/
theorem draw_flawed {char : String} {fault : GeometryFault}
    (htrouble : Trouble font p (.geometry char fault)) (rest : List (Layout.Placement Float))
    (head : Toolpath.Head) : ∃ events,
      Event.noted events = [.geometryError (String.singleton p.char) (geometryMessage char fault)
        "GeometryError"] ∧
      draw m font (p :: rest) head = ⟨[], events, some (.geometry char fault)⟩ := by
  cases htrouble with
  | @flawed outline fault houtline hflaw =>
    have hmapped := (mapOutline_error_iff _ _ _).mpr hflaw
    have hempty : outline.isEmpty = false := by
      by_contra hempty
      rw [mapOutline_of_isEmpty (Bool.not_eq_false _ ▸ hempty)] at hmapped
      cases hmapped
    refine ⟨_, Event.noted_after_missing (font.outline p.char).missing rfl, ?_⟩
    rw [draw]
    simp only [houtline, hempty, hmapped, Bool.false_eq_true, if_false]

/-! ## The books -/

/-- The books of a compilation that has placed so many characters and has come past some of them:
their entries, and the statistics, which are the sums of the entries. -/
structure Books (m : Settings.Machine) (font : Font.Handle) (placed : Nat)
    (before : List (Layout.Placement Float)) (entries : List Event) (s : Stats) : Prop where
  entries : Entries m font before entries
  placed : s.charactersPlaced = placed
  handled : s.glyphsTraced + s.glyphsSkipped = before.length
  skippedChars : s.skippedChars =
    ((before.map Layout.Placement.char).filter (lacksOutline font)).map String.singleton
  skipped : s.glyphsSkipped = s.skippedChars.length
  commands : s.commandsEmitted = (motionOf m font before).1.length

variable {placed : Nat} {s : Stats}

theorem Books.skip (h : Books m font placed before entries s)
    (hlacks : lacksOutline font p.char = true) {reason : String}
    (he : Entry m font (motionOf m font before).2 p
      (.glyphSkipped (String.singleton p.char) reason)) :
    Books m font placed (before ++ [p])
      (entries ++ [.glyphSkipped (String.singleton p.char) reason])
      (s.count (.glyphSkipped (String.singleton p.char) reason)) where
  entries := .more h.entries he
  placed := h.placed
  handled := by
    rw [List.length_append, ← h.handled]
    exact (Nat.add_assoc ..).symm
  skippedChars := by
    simp only [Stats.count, h.skippedChars, List.map_append, List.filter_append, List.map_cons,
      List.map_nil, List.filter_cons_of_pos hlacks, List.filter_nil]
  skipped := by
    simp only [Stats.count, h.skipped, List.length_append, List.length_singleton]
  commands := by
    simp only [motionOf_concat, glyphsOf_lacking hlacks, Toolpath.traceAll,
      Toolpath.Motion.andThen, List.append_nil]
    exact h.commands

theorem Books.trace (h : Books m font placed before entries s) {outline : Font.Outline}
    {glyph : List (Segment Float)} (houtline : (font.outline p.char).outline = .ok (some outline))
    (hdrawn : outline.isEmpty = false) (hmapped : mapOutline p.frame outline = .ok glyph) :
    let e : Event := .glyphTraced (String.singleton p.char)
      (Toolpath.trace m glyph (motionOf m font before).2).1.length outline.contourCount
    Books m font placed (before ++ [p]) (entries ++ [e]) (s.count e) where
  entries := .more h.entries (.traced houtline hdrawn hmapped)
  placed := h.placed
  handled := by
    have hhandled := h.handled
    simp only [Stats.count, List.length_append, List.length_singleton]
    omega
  skippedChars := by
    have hlacks : ¬ lacksOutline font p.char = true := by
      simp [lacksOutline, houtline, hdrawn]
    simp only [Stats.count, h.skippedChars, List.map_append, List.filter_append, List.map_cons,
      List.map_nil, List.filter_cons_of_neg hlacks, List.filter_nil, List.append_nil]
  skipped := h.skipped
  commands := by
    have hcommands := h.commands
    simp only [Stats.count, motionOf_concat, glyphsOf_mapped houtline hdrawn hmapped,
      Toolpath.traceAll, Toolpath.Motion.andThen, List.append_nil, List.length_append]
    omega

theorem Books.more (h : Books m font placed before entries s)
    (he : Entry m font (motionOf m font before).2 p e) :
    Books m font placed (before ++ [p]) (entries ++ [e]) (s.count e) := by
  cases he with
  | unmapped houtline =>
    exact h.skip (by simp only [lacksOutline, houtline]) (.unmapped houtline)
  | empty houtline hempty =>
    exact h.skip (by simp only [lacksOutline, houtline, hempty]) (.empty houtline hempty)
  | traced houtline hdrawn hmapped => exact h.trace houtline hdrawn hmapped

/-- Where a compilation has come past all its characters, each is traced or skipped. -/
theorem Books.all (h : Books m font placed before entries s) (hall : before.length = placed) :
    s.charactersPlaced = s.glyphsTraced + s.glyphsSkipped := by
  rw [h.placed, ← hall, ← h.handled]
  exact Int.natCast_add ..

/-- The statistics of a compilation that has placed its characters are counted from the entries. -/
theorem Entries.books (h : Entries m font before entries) (placed : Nat) (start : Float) :
    Books m font placed before entries
      (Stats.countAll { charactersPlaced := placed, startTime? := some start } entries) := by
  induction h with
  | none => exact ⟨.none, rfl, rfl, rfl, rfl, rfl⟩
  | more _ he ih =>
    rw [Stats.countAll_append]
    exact ih.more he

/-! ## The whole compilation -/

variable {text : String} {style : Settings.Style} {start stop : Float}

/-- The count of the laid out characters comes first, and then the events of drawing them. -/
theorem countAll_laidOut (lines placed : Nat) (scale start : Float) (events : List Event) :
    Stats.countAll { startTime? := some start } (.textLaidOut lines placed scale :: events) =
      Stats.countAll { charactersPlaced := placed, startTime? := some start }
        (Event.noted events) := by
  rw [Stats.countAll_noted]
  simp [Stats.countAll, Stats.count]

/-- Unless the font gives no answer, the characters are placed, and decide the outcome. -/
theorem placed_of_outcome {outcome : Except CompileError Gcode.Program}
    (houtcome : (run text style m font start stop).outcome = outcome)
    (hfont : ∀ fault, outcome ≠ .error (.unusableFont fault)) :
    ∃ placements, placements? text style font = .ok placements ∧
      programOf m font placements = outcome := by
  rw [outcome_run] at houtcome
  cases hplaced : placements? text style font with
  | error fault =>
    rw [hplaced] at houtcome
    exact absurd houtcome.symm (hfont fault)
  | ok placements =>
    rw [hplaced] at houtcome
    exact ⟨placements, rfl, houtcome⟩

/-- What a compilation that comes to its end has noted and counted. -/
theorem books_of_program {program : Gcode.Program}
    (hprogram : (run text style m font start stop).outcome = .ok program) :
    let lines := Text.retainedLines text.toList
    let r := run text style m font start stop
    ∃ placements scale entries, placements? text style font = .ok placements ∧
      scale? style font = .ok scale ∧
      Books m font lines.flatten.length placements entries r.stats ∧
      r.stats.commandsEmitted = program.body.length ∧
      Event.noted r.events = .textLaidOut lines.length lines.flatten.length scale ::
        (entries ++ [.compiled r.stats.charactersPlaced r.stats.glyphsTraced
          r.stats.glyphsSkipped program.size]) := by
  intro lines r
  obtain ⟨placements, hplaced, hprogram⟩ := placed_of_outcome hprogram (by rintro _ ⟨⟩)
  obtain ⟨hnone, rfl⟩ := (programOf_ok_iff ..).mp hprogram
  obtain ⟨events, hentries, hdraw⟩ := draw_entries (m := m)
    (fun p hp => (trouble?_eq_none_iff font p).mpr (hnone p hp)) []
  obtain ⟨scale, hscale, hrun⟩ := run_placed hplaced m start stop
  rw [List.append_nil] at hdraw
  have hr : r = _ := hrun
  simp only [hdraw, draw, Drawing.after, List.append_nil, countAll_laidOut,
    length_placements hplaced] at hr
  have hbooks := hentries.books lines.flatten.length start
  refine ⟨placements, scale, Event.noted events, hplaced, hscale, ?_, ?_, ?_⟩
  · rw [hr]
    exact { hbooks with }
  · rw [hr]
    refine hbooks.commands.trans ?_
    rw [Gcode.emit, List.length_map]
    rfl
  · rw [hr, List.cons_append, ← List.singleton_append, Event.noted_append, Event.noted_append]
    rfl

/-- What a compilation that stops at a flawed outline has noted and counted. -/
theorem books_of_geometryError {char : String} {fault : GeometryFault}
    (herror : (run text style m font start stop).outcome = .error (.geometry char fault)) :
    let lines := Text.retainedLines text.toList
    let r := run text style m font start stop
    ∃ before p after scale entries,
      placements? text style font = .ok (before ++ p :: after) ∧ scale? style font = .ok scale ∧
      (∀ q ∈ before, ∀ e, ¬ Trouble font q e) ∧ Trouble font p (.geometry char fault) ∧
      Books m font lines.flatten.length before entries r.stats ∧
      Event.noted r.events = .textLaidOut lines.length lines.flatten.length scale ::
        (entries ++ [.geometryError (String.singleton p.char) (geometryMessage char fault)
          "GeometryError"]) := by
  intro lines r
  obtain ⟨placements, hplaced, herror⟩ := placed_of_outcome herror (by rintro _ ⟨⟩)
  obtain ⟨before, p, after, rfl, hnone, htrouble⟩ := (programOf_error_iff ..).mp herror
  obtain ⟨events, hentries, hdraw⟩ := draw_entries (m := m)
    (fun q hq => (trouble?_eq_none_iff font q).mpr (hnone q hq)) (p :: after)
  obtain ⟨last, hlast, hflawed⟩ := draw_flawed (m := m) htrouble after (motionOf m font before).2
  obtain ⟨scale, hscale, hrun⟩ := run_placed hplaced m start stop
  have hr : r = _ := hrun
  simp only [hdraw, hflawed, Drawing.after, countAll_laidOut, Event.noted_append, hlast,
    length_placements hplaced] at hr
  have hbooks := hentries.books lines.flatten.length start
  refine ⟨before, p, after, scale, Event.noted events, hplaced, hscale, hnone, htrouble, ?_, ?_⟩
  · rw [hr]
    -- The error itself is not counted.
    rw [Stats.countAll_append]
    exact hbooks
  · rw [hr, ← List.singleton_append, Event.noted_append, Event.noted_append, hlast]
    rfl

/-- Counting events leaves the time of the start. -/
theorem startTime?_countAll (s : Stats) (events : List Event) :
    (s.countAll events).startTime? = s.startTime? := by
  induction events generalizing s with
  | nil => rfl
  | cons e events ih =>
    rw [Stats.countAll, List.foldl_cons, ← Stats.countAll, ih]
    cases e <;> rfl

/-- A compilation that comes to its end knows when it started and when it ended. -/
theorem times_of_program {program : Gcode.Program}
    (hprogram : (run text style m font start stop).outcome = .ok program) :
    (run text style m font start stop).stats.startTime? = some start ∧
      (run text style m font start stop).stats.endTime? = some stop := by
  obtain ⟨placements, hplaced, -⟩ := placed_of_outcome hprogram (by rintro _ ⟨⟩)
  obtain ⟨scale, -, hrun⟩ := run_placed hplaced m start stop
  simp only at hrun
  rw [hrun] at hprogram ⊢
  split at hprogram
  · cases hprogram
  · simp only [startTime?_countAll, and_self]

/-- An error of this stage is about an outline. -/
theorem geometry_of_stage {r : Except CompileError Gcode.Program}
    (h : (match r with | .error e => e.stage? | .ok _ => none) = some "geometry") :
    ∃ char fault, r = .error (.geometry char fault) := by
  cases r with
  | ok program => cases h
  | error e =>
    cases e with
    | geometry char fault => exact ⟨char, fault, rfl⟩
    | _ => simp [CompileError.stage?] at h

end Compilation

/-! ## The law -/

namespace Compiler

open PenPlot.Compilation

theorem clock_loadFont (c : Compiler) (source : Font.Source) (style : Settings.Style) :
    (c.loadFont source style).2.clock = c.clock := by
  unfold loadFont load
  split
  · rfl
  · simp only
    split <;> rfl

/-- A program that a compiler returns comes of a run that starts at the next reading of its clock,
and so do its statistics. -/
theorem exists_run_of_compile {c : Compiler} {source : Font.Source} {text : String}
    {style : Settings.Style} {m : Settings.Machine} {program : Gcode.Program}
    (h : (c.compile source (some text) (some style) (some m)).1.answer = .ok program) :
    ∃ request font,
      let r := run request.text request.style m font (c.clock.ahead 0) (c.clock.ahead 1)
      Request.check (some text) (some style) = .ok request ∧ r.outcome = .ok program ∧
        (c.compile source (some text) (some style) (some m)).2.stats = r.stats := by
  unfold compile at h ⊢
  cases hcheck : Request.check (some text) (some style) with
  | error fault =>
    rw [hcheck] at h
    cases h
  | ok request =>
    rw [hcheck] at h
    simp only at h ⊢
    have hclock := clock_loadFont c source request.style
    generalize c.loadFont source request.style = loaded at h hclock ⊢
    rcases loaded with ⟨⟨answer, trail⟩, c'⟩
    cases answer with
    | error e => cases h
    | ok font =>
      simp only at h hclock ⊢
      rw [← hclock]
      exact ⟨request, font, rfl, h, rfl⟩

/-- Every character of the retained lines is accounted for. A compilation notes first that the
text is laid out. If a program comes out, each placed character then has its entry, traced or
skipped, the numbers of the statistics are noted last, and the commands that they count are the
lines of the body. If an outline is flawed, the characters before it have their entries, all
characters of the text are counted as placed, and the error is noted last. -/
theorem every_character_is_accounted_for (c : Compiler) (text : String) (style : Settings.Style)
    (machine? : Option Settings.Machine) (font : Font.Handle) (trail : Font.Trail) :
    let m := machine?.getD c.settings.machine
    let lines := Text.retainedLines text.toList
    let r := c.compileWith (some text) (some style) machine? font trail
    let s := r.2.stats
    ∃ events, r.1.trail.events = trail.events ++ events ∧
      (∀ program, r.1.answer = .ok program → ∃ placements scale entries,
        placements? text style font = .ok placements ∧
        placements.map Layout.Placement.char = lines.flatten ∧ scale? style font = .ok scale ∧
        Books m font lines.flatten.length placements entries s ∧
        s.charactersPlaced = s.glyphsTraced + s.glyphsSkipped ∧
        s.commandsEmitted = program.body.length ∧
        Event.noted events = .textLaidOut lines.length lines.flatten.length scale ::
          (entries ++ [.compiled s.charactersPlaced s.glyphsTraced s.glyphsSkipped
            program.size])) ∧
      ∀ char fault, r.1.answer = .error (.geometry char fault) → ∃ before p after scale entries,
        placements? text style font = .ok (before ++ p :: after) ∧
        (before ++ p :: after).map Layout.Placement.char = lines.flatten ∧
        scale? style font = .ok scale ∧
        (∀ q ∈ before, ∀ e, ¬ Trouble font q e) ∧ Trouble font p (.geometry char fault) ∧
        Books m font lines.flatten.length before entries s ∧
        Event.noted events = .textLaidOut lines.length lines.flatten.length scale ::
          (entries ++ [.geometryError (String.singleton p.char) (geometryMessage char fault)
            "GeometryError"]) := by
  intro m lines r s
  refine ⟨_, rfl, ?_, ?_⟩
  · intro program hprogram
    obtain ⟨placements, scale, entries, hplaced, hscale, hbooks, hbody, hnoted⟩ :=
      books_of_program hprogram
    exact ⟨placements, scale, entries, hplaced, map_char_placements hplaced, hscale, hbooks,
      hbooks.all (length_placements hplaced), hbody, hnoted⟩
  · intro char fault herror
    obtain ⟨before, p, after, scale, entries, hplaced, hscale, hnone, htrouble, hbooks, hnoted⟩ :=
      books_of_geometryError herror
    exact ⟨before, p, after, scale, entries, hplaced, map_char_placements hplaced, hscale, hnone,
      htrouble, hbooks, hnoted⟩

/-- Two arches with a blank between them are three characters. Where a line without an end follows
the blank, the arch and the blank before it are handled, of four characters. -/
theorem an_arch_and_a_blank_are_accounted_for :
    let c := fresh .standard false ⟨[0], 0⟩
    let whole := c.compileWith (some "n n") (some .standard) (some coarseMachine) archFont ⟨[], []⟩
    let stopped := c.compileWith (some "n l\nn") (some .standard) (some coarseMachine) endlessFont
      ⟨[], []⟩
    (∃ program, whole.1.answer = .ok program ∧ whole.2.stats.charactersPlaced = 3 ∧
      whole.2.stats.commandsEmitted = program.body.length) ∧
    ∃ char fault, stopped.1.answer = .error (.geometry char fault) ∧
      stopped.2.stats.charactersPlaced = 4 ∧
      ∃ before p after, placements? "n l\nn" .standard endlessFont = .ok (before ++ p :: after) ∧
        stopped.2.stats.glyphsTraced + stopped.2.stats.glyphsSkipped = before.length := by
  intro c whole stopped
  obtain ⟨program, hprogram⟩ : ∃ program, whole.1.answer = .ok program :=
    ok_of_isSome (by decide +kernel)
  obtain ⟨char, fault, herror⟩ : ∃ char fault, stopped.1.answer = .error (.geometry char fault) :=
    geometry_of_stage (by decide +kernel)
  obtain ⟨_, -, hwhole, -⟩ := every_character_is_accounted_for c "n n" .standard
    (some coarseMachine) archFont ⟨[], []⟩
  obtain ⟨_, -, -, hstopped⟩ := every_character_is_accounted_for c "n l\nn" .standard
    (some coarseMachine) endlessFont ⟨[], []⟩
  obtain ⟨placements, scale, entries, -, -, -, hbooks, -, hbody, -⟩ := hwhole program hprogram
  obtain ⟨before, p, after, scale', entries', hplaced, -, -, -, -, hbooks', -⟩ :=
    hstopped char fault herror
  exact ⟨⟨program, hprogram, hbooks.placed, hbody⟩, char, fault, herror, hbooks'.placed,
    before, p, after, hplaced, hbooks'.handled⟩

end Compiler

end PenPlot
