-- Characters that draw nothing. All that a skipped character does is to move the pen on by its
-- advance before the others are placed: another one of the same advance may take its place, and
-- once the characters are placed it may as well not be there.
import PenPlot.Proofs.Compilation.Outcome

namespace PenPlot.Compilation

open PenPlot.Geometry

/-! ## Characters that are skipped -/

/-- A character has no outline, or an empty one. -/
def isSkipped (font : Font.Handle) (c : Char) : Bool :=
  match (font.outline c).outline with
  | .ok none => true
  | .ok (some outline) => outline.isEmpty
  | .error _ => false

variable {m : Settings.Machine} {font : Font.Handle} {p : Layout.Placement Float}

theorem drawn?_of_isSkipped (h : isSkipped font p.char = true) : drawn? font p = none := by
  unfold isSkipped at h
  unfold drawn?
  split at h
  · next houtline => rw [houtline]
  · next outline houtline =>
    simp only [houtline]
    rw [if_pos h]
  · cases h

theorem trouble?_of_isSkipped (h : isSkipped font p.char = true) : trouble? font p = none := by
  unfold isSkipped at h
  unfold trouble?
  split at h
  · next houtline => rw [houtline]
  · next outline houtline => simp only [houtline, mapOutline_of_isEmpty h]
  · cases h

/-! ## Drawing without them -/

/-- Drawing goes on after a skipped character as if it were not there. -/
theorem commands_draw_skipped (h : isSkipped font p.char = true)
    (rest : List (Layout.Placement Float)) (head : Toolpath.Head) :
    (draw m font (p :: rest) head).commands = (draw m font rest head).commands := by
  unfold isSkipped at h
  rw [draw]
  split at h
  · next houtline => simp [houtline, Drawing.after]
  · next outline houtline => simp [houtline, h, Drawing.after]
  · cases h

/-- After any character, the same is drawn where the rest draws the same from everywhere. -/
theorem commands_draw_cons {rest others : List (Layout.Placement Float)}
    (h : ∀ head, (draw m font rest head).commands = (draw m font others head).commands)
    (p : Layout.Placement Float) (head : Toolpath.Head) :
    (draw m font (p :: rest) head).commands = (draw m font (p :: others) head).commands := by
  rw [draw, draw]
  cases (font.outline p.char).outline with
  | error fault => rfl
  | ok outline? =>
    cases outline? with
    | none => exact h head
    | some outline =>
      by_cases hempty : outline.isEmpty = true
      · simp only [hempty, if_true]
        exact h head
      · simp only [hempty, Bool.false_eq_true, if_false]
        cases mapOutline p.frame outline with
        | error fault => rfl
        | ok glyph => exact congrArg (_ ++ ·) (h _)

/-- The characters that are not skipped. -/
def unskipped (font : Font.Handle) (placements : List (Layout.Placement Float)) :
    List (Layout.Placement Float) :=
  placements.filter fun p => !isSkipped font p.char

theorem commands_draw_unskipped (m : Settings.Machine) (font : Font.Handle)
    (placements : List (Layout.Placement Float)) (head : Toolpath.Head) :
    (draw m font (unskipped font placements) head).commands =
      (draw m font placements head).commands := by
  unfold unskipped
  induction placements generalizing head with
  | nil => rfl
  | cons p rest ih =>
    by_cases hskipped : isSkipped font p.char = true
    · rw [List.filter_cons_of_neg (by simp [hskipped]), commands_draw_skipped hskipped, ih]
    · rw [List.filter_cons_of_pos (by simp [hskipped])]
      exact commands_draw_cons ih p head

theorem error_draw_unskipped (m : Settings.Machine) (font : Font.Handle)
    (placements : List (Layout.Placement Float)) (head : Toolpath.Head) :
    (draw m font (unskipped font placements) head).error? =
      (draw m font placements head).error? := by
  unfold unskipped
  rw [error_draw, error_draw]
  induction placements with
  | nil => rfl
  | cons p rest ih =>
    by_cases hskipped : isSkipped font p.char = true
    · rw [List.filter_cons_of_neg (by simp [hskipped]), List.findSome?_cons,
        trouble?_of_isSkipped hskipped, ih]
    · rw [List.filter_cons_of_pos (by simp [hskipped]), List.findSome?_cons, List.findSome?_cons,
        ih]

/-- A program that comes out carries out what the placed characters draw. -/
theorem body_eq_draw {text : String} {style : Settings.Style} {start stop : Float}
    {program : Gcode.Program} (hrun : (run text style m font start stop).outcome = .ok program) :
    ∃ placements, placements? text style font = .ok placements ∧
      program.body = (draw m font placements (.at Toolpath.machineOrigin)).commands.map
        (Gcode.commandLine m) := by
  rw [outcome_run] at hrun
  cases hplaced : placements? text style font with
  | error fault =>
    rw [hplaced] at hrun
    cases hrun
  | ok placements =>
    rw [hplaced] at hrun
    obtain ⟨hnone, rfl⟩ := (programOf_ok_iff ..).mp hrun
    simp only [← trouble?_eq_none_iff, ← List.findSome?_eq_none_iff] at hnone
    refine ⟨placements, rfl, ?_⟩
    rw [(draw_ok ((error_draw m font placements _).trans hnone)).2]
    rfl

/-! ## Characters that act alike -/

/-- Characters are replaced by others that act alike: none of them is or becomes a blank or a line
feed, the advances stay, and those that change are skipped before and after. -/
structure ActsAlike (font : Font.Handle) (f : Char → Char) : Prop where
  feed : ∀ c, f c = '\n' ↔ c = '\n'
  blank : ∀ c, Text.isBlank (f c) = Text.isBlank c
  advance : ∀ c, font.advance (f c) = font.advance c
  skipped : ∀ c, f c = c ∨ isSkipped font c = true ∧ isSkipped font (f c) = true

variable {f : Char → Char}

theorem ActsAlike.programOf_replace (h : ActsAlike font f)
    (placements : List (Layout.Placement Float)) :
    programOf m font (placements.map (.replace f)) = programOf m font placements := by
  have htrouble : trouble? font ∘ .replace f = trouble? font := funext fun p => by
    rcases h.skipped p.char with hsame | ⟨hbefore, hafter⟩
    · exact congrArg (trouble? font) (congrArg (Layout.Placement.mk · p.frame) hsame)
    · exact (trouble?_of_isSkipped hafter).trans (trouble?_of_isSkipped hbefore).symm
  have hdrawn : drawn? font ∘ .replace f = drawn? font := funext fun p => by
    rcases h.skipped p.char with hsame | ⟨hbefore, hafter⟩
    · exact congrArg (drawn? font) (congrArg (Layout.Placement.mk · p.frame) hsame)
    · exact (drawn?_of_isSkipped hafter).trans (drawn?_of_isSkipped hbefore).symm
  unfold programOf glyphsOf
  rw [List.findSome?_map, htrouble, List.filterMap_map, hdrawn]

/-- A text has the outcome of the text with the characters replaced. -/
theorem ActsAlike.outcome_run (h : ActsAlike font f) (text : String) (style : Settings.Style)
    (m : Settings.Machine) (start stop start' stop' : Float) :
    (run (String.ofList (text.toList.map f)) style m font start' stop').outcome =
      (run text style m font start stop).outcome := by
  rw [Compilation.outcome_run, Compilation.outcome_run]
  unfold placements?
  cases font.metrics? with
  | error fault => rfl
  | ok metrics =>
    simp only [bind, Except.bind, Layout.layOut_replace h.feed h.blank h.advance]
    cases Layout.layOut text style metrics font.advance with
    | error fault => rfl
    | ok placements => exact h.programOf_replace placements

/-- One character in the place of another one. -/
def putFor (c d x : Char) : Char := if x = c then d else x

theorem actsAlike_putFor {c d : Char} (hc : Text.isBlank c = false) (hd : Text.isBlank d = false)
    (hskipc : isSkipped font c = true) (hskipd : isSkipped font d = true)
    (hadvance : font.advance c = font.advance d) : ActsAlike font (putFor c d) := by
  have hfeed : ∀ x, Text.isBlank x = false → x ≠ '\n' := by
    rintro x hx rfl
    exact absurd hx (by decide)
  refine ⟨fun x => ?_, fun x => ?_, fun x => ?_, fun x => ?_⟩ <;> unfold putFor <;>
    by_cases hx : x = c
  · simp [hx, hfeed c hc, hfeed d hd]
  · simp [hx]
  · simp [hx, hc, hd]
  · simp [hx]
  · simp [hx, hadvance]
  · simp [hx]
  · simp [hx, hskipc, hskipd]
  · simp [hx]

/-- Where a text has one character in the place of some of another one, both become the same text
once it is put for all of them. -/
theorem map_putFor {c d : Char} {text other : List Char}
    (h : List.Forall₂ (fun x y => y = x ∨ x = c ∧ y = d) text other) :
    other.map (putFor c d) = text.map (putFor c d) := by
  induction h with
  | nil => rfl
  | cons hxy _ ih =>
    rw [List.map_cons, List.map_cons, ih]
    rcases hxy with rfl | ⟨rfl, rfl⟩
    · rfl
    · simp [putFor]

/-! ## The law -/

/-- Characters that are skipped act through their advance alone. Where two of them have the same
advance and neither is a blank, any occurrences of the one may be replaced by the other: the
compilation comes to the same program or the same error. And once the characters are placed, those
that are skipped may be left out: the same is drawn, up to the same error, and so a program has the
same body. -/
theorem skipped_characters_act_through_their_advance (style : Settings.Style)
    (m : Settings.Machine) (font : Font.Handle) (start stop start' stop' : Float) :
    (∀ c d, Text.isBlank c = false → Text.isBlank d = false →
      isSkipped font c = true → isSkipped font d = true → font.advance c = font.advance d →
      ∀ text other : String,
        List.Forall₂ (fun x y => y = x ∨ x = c ∧ y = d) text.toList other.toList →
          (run other style m font start' stop').outcome =
            (run text style m font start stop).outcome) ∧
    (∀ placements head,
      (draw m font (unskipped font placements) head).commands =
        (draw m font placements head).commands ∧
      (draw m font (unskipped font placements) head).error? =
        (draw m font placements head).error?) ∧
    ∀ text program, (run text style m font start stop).outcome = .ok program →
      ∃ placements, placements? text style font = .ok placements ∧
        program.body = (draw m font (unskipped font placements)
          (.at Toolpath.machineOrigin)).commands.map (Gcode.commandLine m) := by
  refine ⟨?_, fun placements head => ⟨commands_draw_unskipped m font placements head,
    error_draw_unskipped m font placements head⟩, ?_⟩
  · intro c d hc hd hskipc hskipd hadvance text other hreplaced
    have halike := actsAlike_putFor hc hd hskipc hskipd hadvance
    rw [← halike.outcome_run other style m start' stop' start stop, map_putFor hreplaced,
      halike.outcome_run text style m start stop]
  · intro text program hrun
    obtain ⟨placements, hplaced, hbody⟩ := body_eq_draw hrun
    exact ⟨placements, hplaced, by rw [hbody, commands_draw_unskipped]⟩

/-- Between two arches, and after them, the font has neither mark. -/
theorem a_mark_is_put_for_another :
    isSkipped archFont '?' = true ∧ isSkipped archFont '!' = true ∧
      archFont.advance '?' = archFont.advance '!' ∧
      ∃ program, (run "n?\nn ?" .standard coarseMachine archFont 0 0).outcome = .ok program ∧
        (run "n!\nn ?" .standard coarseMachine archFont 0 0).outcome = .ok program ∧
        ∃ placements, placements? "n?\nn ?" .standard archFont = .ok placements ∧
          program.body = (draw coarseMachine archFont (unskipped archFont placements)
            (.at Toolpath.machineOrigin)).commands.map (Gcode.commandLine coarseMachine) := by
  have hskipped : isSkipped archFont '?' = true ∧ isSkipped archFont '!' = true := by decide
  have hadvance : archFont.advance '?' = archFont.advance '!' := by decide
  have hreplaced : List.Forall₂ (fun x y => y = x ∨ x = '?' ∧ y = '!')
      "n?\nn ?".toList "n!\nn ?".toList :=
    List.forall₂_iff_get.mpr ⟨by decide, by decide⟩
  obtain ⟨program, hprogram⟩ :
      ∃ program, (run "n?\nn ?" .standard coarseMachine archFont 0 0).outcome = .ok program :=
    ok_of_isSome (by decide +kernel)
  obtain ⟨hput, -, hbody⟩ :=
    skipped_characters_act_through_their_advance .standard coarseMachine archFont 0 0 0 0
  refine ⟨hskipped.1, hskipped.2, hadvance, program, hprogram, ?_, hbody _ _ hprogram⟩
  rw [hput '?' '!' (by decide) (by decide) hskipped.1 hskipped.2 hadvance _ _ hreplaced]
  exact hprogram

end PenPlot.Compilation
