-- The laws of layouts. A text can be laid out exactly when the grid of its font can
-- be counted and each of its characters has an advance. Where a text goes on, the
-- characters that were there before stand where they stood, and so do others of the
-- same advances in their place.
import Mathlib.Data.List.Forall2
import PenPlot.Layout
import PenPlot.Proofs.Text.Lines

namespace PenPlot.Layout

open PenPlot.Text (GoesOn)

/-! ## Looking up one thing after the other -/

section Lookup

variable {ε α β : Type} {f : α → Except ε β}

theorem mapM_cons_ok {x : α} {xs : List α} {ys : List β} :
    (x :: xs).mapM f = .ok ys ↔ ∃ y zs, f x = .ok y ∧ xs.mapM f = .ok zs ∧ ys = y :: zs := by
  rw [List.mapM_cons]
  cases hx : f x with
  | error e => simp [bind, Except.bind]
  | ok y =>
    cases hxs : xs.mapM f with
    | error e => simp [bind, Except.bind]
    | ok zs => simp [bind, Except.bind, pure, Except.pure, eq_comm]

/-- All answers come exactly when each of them does. -/
theorem isOk_mapM_iff (xs : List α) :
    (∃ ys, xs.mapM f = .ok ys) ↔ ∀ x ∈ xs, ∃ y, f x = .ok y := by
  induction xs with
  | nil => exact ⟨fun _ x hx => (by cases hx), fun _ => ⟨[], rfl⟩⟩
  | cons x rest ih =>
    rw [List.forall_mem_cons, ← ih]
    constructor
    · rintro ⟨ys, hys⟩
      obtain ⟨y, zs, hy, hzs, -⟩ := mapM_cons_ok.mp hys
      exact ⟨⟨y, hy⟩, zs, hzs⟩
    · rintro ⟨⟨y, hy⟩, zs, hzs⟩
      exact ⟨y :: zs, mapM_cons_ok.mpr ⟨y, zs, hy, hzs, rfl⟩⟩

/-- The answers come one for each question. -/
theorem mapM_ok_iff {xs : List α} {ys : List β} :
    xs.mapM f = .ok ys ↔ List.Forall₂ (fun x y => f x = .ok y) xs ys := by
  induction xs generalizing ys with
  | nil =>
    rw [List.forall₂_nil_left_iff, List.mapM_nil]
    simp [pure, Except.pure, eq_comm]
  | cons x rest ih =>
    rw [mapM_cons_ok, List.forall₂_cons_left_iff]
    simp only [ih]

/-- What comes first in a list is its head, or comes after it. -/
theorem exists_first_cons {p q : α → Prop} {x : α} {rest : List α} :
    (∃ before y after, x :: rest = before ++ y :: after ∧ p y ∧ ∀ z ∈ before, q z) ↔
      p x ∨ q x ∧ ∃ before y after, rest = before ++ y :: after ∧ p y ∧ ∀ z ∈ before, q z := by
  constructor
  · rintro ⟨before, y, after, hsplit, hy, hbefore⟩
    cases before with
    | nil =>
      obtain ⟨rfl, -⟩ := List.cons.inj hsplit
      exact .inl hy
    | cons z before =>
      obtain ⟨rfl, hrest⟩ := List.cons.inj hsplit
      obtain ⟨hx, hbefore⟩ := List.forall_mem_cons.mp hbefore
      exact .inr ⟨hx, before, y, after, hrest, hy, hbefore⟩
  · rintro (hx | ⟨hx, before, y, after, rfl, hy, hbefore⟩)
    · exact ⟨[], x, rest, rfl, hx, by simp⟩
    · exact ⟨x :: before, y, after, rfl, hy, List.forall_mem_cons.mpr ⟨hx, hbefore⟩⟩

/-- The error is that of the first question without an answer. -/
theorem mapM_error_iff {xs : List α} {e : ε} :
    xs.mapM f = .error e ↔ ∃ before x after, xs = before ++ x :: after ∧ f x = .error e ∧
      ∀ y ∈ before, ∃ z, f y = .ok z := by
  induction xs with
  | nil => simp [pure, Except.pure]
  | cons x rest ih =>
    rw [List.mapM_cons, exists_first_cons, ← ih]
    cases f x with
    | error other => simp [bind, Except.bind]
    | ok y => cases rest.mapM f <;> simp [bind, Except.bind, pure, Except.pure]

/-- If each answer tells its question, all of them tell all questions. -/
theorem map_mapM {g : β → α} (hg : ∀ x y, f x = .ok y → g y = x) {xs : List α} {ys : List β}
    (h : xs.mapM f = .ok ys) : ys.map g = xs := by
  induction xs generalizing ys with
  | nil =>
    cases h
    rfl
  | cons x rest ih =>
    obtain ⟨y, zs, hy, hzs, rfl⟩ := mapM_cons_ok.mp h
    rw [List.map_cons, hg x y hy, ih hzs]

/-- The answers to the first questions come first. -/
theorem mapM_begins {xs longer : List α} (h : xs <+: longer) {ys : List β}
    (hys : longer.mapM f = .ok ys) : ∃ zs, xs.mapM f = .ok zs ∧ zs <+: ys := by
  induction xs generalizing longer ys with
  | nil => exact ⟨[], rfl, List.nil_prefix⟩
  | cons x rest ih =>
    obtain ⟨more, rfl⟩ := h
    obtain ⟨y, others, hy, hothers, rfl⟩ := mapM_cons_ok.mp hys
    obtain ⟨zs, hzs, hprefix⟩ := ih (List.prefix_append rest more) hothers
    exact ⟨y :: zs, mapM_cons_ok.mpr ⟨y, zs, hy, hzs, rfl⟩,
      List.cons_prefix_cons.mpr ⟨rfl, hprefix⟩⟩

/-- Lines of answers go on where the lines of questions do. -/
theorem mapM_goesOn {lines longer : List (List α)} (h : GoesOn lines longer)
    {ys : List (List β)} (hys : longer.mapM (List.mapM f) = .ok ys) :
    ∃ zs, lines.mapM (List.mapM f) = .ok zs ∧ GoesOn zs ys := by
  induction h generalizing ys with
  | fromNothing longer => exact ⟨[], rfl, .fromNothing ys⟩
  | withinLine more hprefix =>
    obtain ⟨y, others, hy, -, rfl⟩ := mapM_cons_ok.mp hys
    obtain ⟨z, hz, hbegins⟩ := mapM_begins hprefix hy
    exact ⟨[z], mapM_cons_ok.mpr ⟨z, [], hz, rfl, rfl⟩, .withinLine others hbegins⟩
  | afterLine line _ ih =>
    obtain ⟨y, others, hy, hothers, rfl⟩ := mapM_cons_ok.mp hys
    obtain ⟨zs, hzs, hgoesOn⟩ := ih hothers
    exact ⟨y :: zs, mapM_cons_ok.mpr ⟨y, zs, hy, hzs, rfl⟩, .afterLine y hgoesOn⟩

/-- Questions that have the answers of others are answered like these. -/
theorem mapM_map {g : α → α} {h : β → β} (hf : ∀ x, f (g x) = (f x).map h) (xs : List α) :
    (xs.map g).mapM f = (xs.mapM f).map (List.map h) := by
  induction xs with
  | nil => rfl
  | cons x rest ih =>
    rw [List.map_cons, List.mapM_cons, List.mapM_cons, ih, hf]
    cases f x with
    | error e => rfl
    | ok y => cases rest.mapM f <;> rfl

end Lookup

/-- The advances of all lines can be looked up exactly when each character has one. -/
theorem isOk_measure_iff {ε β : Type} (advance : Char → Except ε β) (lines : List (List Char)) :
    (∃ measured, measure advance lines = .ok measured) ↔
      ∀ line ∈ lines, ∀ c ∈ line, ∃ width, advance c = .ok width := by
  have hpair : ∀ c, (∃ y, (advance c).map (fun width => (c, width)) = .ok y) ↔
      ∃ width, advance c = .ok width := by
    intro c
    cases advance c <;> simp [Except.map]
  unfold measure
  simp only [isOk_mapM_iff, hpair]

/-- A grid unit has a length exactly when the grid can be counted. -/
theorem isOk_scaleFor?_iff (metrics : Font.Metrics) (size : Float) :
    (∃ scale, metrics.scaleFor? size = .ok scale) ↔
      ∃ n, Number.ofInt? metrics.unitsPerEm = some n := by
  unfold Font.Metrics.scaleFor?
  cases Number.ofInt? metrics.unitsPerEm <;> simp

/-- A layout places the lines of a text, once the size of a grid unit and all advances are
known. -/
theorem layOut_ok_iff {text : String} {style : Settings.Style} {metrics : Font.Metrics}
    {advance : Char → Except Font.Fault Float} {placements : List (Placement Float)} :
    layOut text style metrics advance = .ok placements ↔ ∃ scale lines,
      metrics.scaleFor? style.fontSize.value = .ok scale ∧
        measure advance (Text.retainedLines text.toList) = .ok lines ∧
          placements = place (spacing style scale) lines := by
  unfold layOut
  cases metrics.scaleFor? style.fontSize.value with
  | error fault => simp [bind, Except.bind]
  | ok scale =>
    cases measure advance (Text.retainedLines text.toList) with
    | error fault => simp [bind, Except.bind]
    | ok lines => simp [bind, Except.bind, pure, Except.pure, eq_comm]

/-- A text can be laid out exactly when the grid can be counted and each character that is
plotted has an advance. -/
theorem isOk_layOut_iff (text : String) (style : Settings.Style) (metrics : Font.Metrics)
    (advance : Char → Except Font.Fault Float) :
    (∃ placements, layOut text style metrics advance = .ok placements) ↔
      (∃ scale, metrics.scaleFor? style.fontSize.value = .ok scale) ∧
        ∀ line ∈ Text.retainedLines text.toList, ∀ c ∈ line, ∃ width, advance c = .ok width := by
  rw [← isOk_measure_iff]
  constructor
  · rintro ⟨placements, h⟩
    obtain ⟨scale, lines, hscale, hlines, -⟩ := layOut_ok_iff.mp h
    exact ⟨⟨scale, hscale⟩, lines, hlines⟩
  · rintro ⟨⟨scale, hscale⟩, lines, hlines⟩
    exact ⟨_, layOut_ok_iff.mpr ⟨scale, lines, hscale, hlines, rfl⟩⟩

/-! ## The characters of a layout -/

theorem map_fst_measure {ε β : Type} {advance : Char → Except ε β} {lines : List (List Char)}
    {measured : List (List (Char × β))} (h : measure advance lines = .ok measured) :
    measured.map (·.map Prod.fst) = lines := by
  have hpair : ∀ c pair, (advance c).map (fun width => (c, width)) = .ok pair → pair.1 = c := by
    intro c pair hc
    cases hwidth : advance c with
    | error e => simp [hwidth, Except.map] at hc
    | ok width =>
      simp only [hwidth, Except.map, Except.ok.injEq] at hc
      rw [← hc]
  exact map_mapM (fun _ _ hline => map_mapM hpair hline) h

variable {α : Type} [Add α] [Mul α]

theorem map_char_placeFrom [NatCast α] (s : Spacing α) (i : Nat)
    (lines : List (List (Char × α))) :
    (placeFrom s i lines).map Placement.char = (lines.map (·.map Prod.fst)).flatten := by
  induction lines generalizing i with
  | nil => rfl
  | cons line rest ih =>
    rw [placeFrom, List.map_append, map_char_placeLine, ih, List.map_cons, List.flatten_cons]

/-- The characters of a text are placed in their order, line after line. -/
theorem map_char_layOut {text : String} {style : Settings.Style} {metrics : Font.Metrics}
    {advance : Char → Except Font.Fault Float} {placements : List (Placement Float)}
    (h : layOut text style metrics advance = .ok placements) :
    placements.map Placement.char = (Text.retainedLines text.toList).flatten := by
  obtain ⟨scale, lines, -, hlines, rfl⟩ := layOut_ok_iff.mp h
  exact (map_char_placeFrom _ 0 lines).trans (congrArg _ (map_fst_measure hlines))

/-! ## Texts that go on -/

theorem placeLine_begins (s : Spacing α) (y x : α) {line longer : List (Char × α)}
    (h : line <+: longer) : placeLine s y x line <+: placeLine s y x longer := by
  induction line generalizing longer x with
  | nil => exact List.nil_prefix
  | cons c rest ih =>
    obtain ⟨more, rfl⟩ := h
    rw [List.cons_append, placeLine, placeLine]
    exact List.cons_prefix_cons.mpr ⟨rfl, ih _ (List.prefix_append rest more)⟩

theorem placeFrom_begins [NatCast α] (s : Spacing α) (i : Nat)
    {lines longer : List (List (Char × α))} (h : GoesOn lines longer) :
    placeFrom s i lines <+: placeFrom s i longer := by
  induction h generalizing i with
  | fromNothing longer => exact List.nil_prefix
  | withinLine more hprefix =>
    rw [placeFrom, placeFrom, placeFrom, List.append_nil]
    exact (placeLine_begins s _ _ hprefix).trans (List.prefix_append _ _)
  | afterLine line _ ih =>
    rw [placeFrom, placeFrom]
    exact (List.prefix_append_right_inj _).mpr (ih (i + 1))

/-- Where a text goes on, its characters stay where they are. -/
theorem layOut_begins {text more : String} {style : Settings.Style} {metrics : Font.Metrics}
    {advance : Char → Except Font.Fault Float} {longer : List (Placement Float)}
    (h : layOut (text ++ more) style metrics advance = .ok longer) :
    ∃ placements, layOut text style metrics advance = .ok placements ∧ placements <+: longer := by
  obtain ⟨scale, measured, hscale, hmeasured, rfl⟩ := layOut_ok_iff.mp h
  rw [String.toList_append] at hmeasured
  obtain ⟨lines, hlines, hgoesOn⟩ :=
    mapM_goesOn (Text.goesOn_retainedLines text.toList more.toList) hmeasured
  exact ⟨place (spacing style scale) lines, layOut_ok_iff.mpr ⟨scale, lines, hscale, hlines, rfl⟩,
    placeFrom_begins _ 0 hgoesOn⟩

/-! ## Characters that are replaced -/

/-- Another character in the place of one. -/
def Placement.replace (f : Char → Char) (p : Placement α) : Placement α := ⟨f p.char, p.frame⟩

theorem placeLine_replace (f : Char → Char) (s : Spacing α) (y x : α) (line : List (Char × α)) :
    placeLine s y x (line.map (Prod.map f id)) =
      (placeLine s y x line).map (Placement.replace f) := by
  induction line generalizing x with
  | nil => rfl
  | cons c rest ih => simp [placeLine, ih, Placement.replace]

theorem placeFrom_replace [NatCast α] (f : Char → Char) (s : Spacing α) (i : Nat)
    (lines : List (List (Char × α))) :
    placeFrom s i (lines.map (·.map (Prod.map f id))) =
      (placeFrom s i lines).map (Placement.replace f) := by
  induction lines generalizing i with
  | nil => rfl
  | cons line rest ih =>
    rw [List.map_cons, placeFrom, placeFrom, List.map_append, placeLine_replace, ih]

theorem measure_replace {ε β : Type} {advance : Char → Except ε β} {f : Char → Char}
    (hadvance : ∀ c, advance (f c) = advance c) (lines : List (List Char)) :
    measure advance (lines.map (·.map f)) =
      (measure advance lines).map (·.map (·.map (Prod.map f id))) := by
  have hpair : ∀ c, (advance (f c)).map (fun width => (f c, width)) =
      ((advance c).map fun width => (c, width)).map (Prod.map f id) := by
    intro c
    rw [hadvance]
    cases advance c <;> rfl
  exact mapM_map (mapM_map hpair) lines

/-- Where characters are replaced by others of the same advance, these stand where they stood. -/
theorem layOut_replace {f : Char → Char} (hfeed : ∀ c, f c = '\n' ↔ c = '\n')
    (hblank : ∀ c, Text.isBlank (f c) = Text.isBlank c)
    {advance : Char → Except Font.Fault Float} (hadvance : ∀ c, advance (f c) = advance c)
    (text : String) (style : Settings.Style) (metrics : Font.Metrics) :
    layOut (String.ofList (text.toList.map f)) style metrics advance =
      (layOut text style metrics advance).map (·.map (Placement.replace f)) := by
  unfold layOut
  rw [String.toList_ofList, Text.retainedLines_map hfeed hblank, measure_replace hadvance]
  cases metrics.scaleFor? style.fontSize.value with
  | error fault => rfl
  | ok scale =>
    cases measure advance (Text.retainedLines text.toList) with
    | error fault => rfl
    | ok lines => exact congrArg Except.ok (placeFrom_replace f _ 0 lines)

end PenPlot.Layout
