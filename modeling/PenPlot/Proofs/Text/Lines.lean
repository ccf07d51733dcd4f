-- The laws of the lines of a text. Where a text goes on, its lines go on: only the
-- last one may become longer, and others may follow it. Blanks make no difference
-- to that, since what trimming leaves of a line is a beginning of what it leaves of
-- a longer one. Characters that are replaced by others keep their places in the lines.
import Mathlib.Data.List.DropRight
import PenPlot.Text.Lines

namespace PenPlot.Text

variable {α : Type}

/-! ## Splitting -/

theorem splitAt_eq_splitOn (sep : Char) (text : List Char) :
    splitAt sep text = text.splitOn sep := by
  induction text with
  | nil => rfl
  | cons c rest ih =>
    rw [splitAt, ih, List.splitOn_cons_eq_if_modifyHead]
    cases hsplit : rest.splitOn sep with
    | nil => exact absurd hsplit (List.splitOn_ne_nil sep rest)
    | cons piece pieces => simp

/-- No piece has a separator in it. -/
theorem not_mem_of_mem_splitAt {sep : Char} {text piece : List Char}
    (h : piece ∈ splitAt sep text) : sep ∉ piece := by
  induction text generalizing piece with
  | nil => simp_all [splitAt]
  | cons c rest ih =>
    rw [splitAt] at h
    cases hsplit : splitAt sep rest with
    | nil => exact absurd hsplit (splitAt_ne_nil sep rest)
    | cons first pieces =>
      rw [hsplit] at h ih
      by_cases hc : c = sep
      · simp only [hc, if_true, List.mem_cons] at h
        rcases h with rfl | hpiece
        · exact List.not_mem_nil
        · exact ih (List.mem_cons.mpr hpiece)
      · simp only [hc, if_false, List.mem_cons] at h
        rcases h with rfl | hpiece
        · simp only [List.mem_cons, not_or]
          exact ⟨Ne.symm hc, ih List.mem_cons_self⟩
        · exact ih (List.mem_cons_of_mem _ hpiece)

/-! ## Lines that go on -/

/-- The lists `longer` go on where `lines` end: within the last one, or after it. -/
inductive GoesOn : List (List α) → List (List α) → Prop
  | fromNothing (longer : List (List α)) : GoesOn [] longer
  | withinLine {line longer : List α} (more : List (List α)) :
      line <+: longer → GoesOn [line] (longer :: more)
  | afterLine (line : List α) {lines longer : List (List α)} :
      GoesOn lines longer → GoesOn (line :: lines) (line :: longer)

/-- A text that goes on is split where it was split before. -/
theorem goesOn_splitAt (sep : Char) (text more : List Char) :
    GoesOn (splitAt sep text) (splitAt sep (text ++ more)) := by
  induction text with
  | nil =>
    rw [List.nil_append]
    cases hsplit : splitAt sep more with
    | nil => exact absurd hsplit (splitAt_ne_nil sep more)
    | cons piece pieces => exact .withinLine pieces List.nil_prefix
  | cons c rest ih =>
    rw [List.cons_append, splitAt, splitAt]
    cases hsplit : splitAt sep rest with
    | nil => exact absurd hsplit (splitAt_ne_nil sep rest)
    | cons piece pieces =>
      cases hlonger : splitAt sep (rest ++ more) with
      | nil => exact absurd hlonger (splitAt_ne_nil sep (rest ++ more))
      | cons piece' pieces' =>
        rw [hsplit, hlonger] at ih
        by_cases hc : c = sep
        · simp only [hc, if_true]
          exact .afterLine [] ih
        · simp only [hc, if_false]
          cases ih with
          | withinLine _ hprefix =>
            exact .withinLine pieces' (List.cons_prefix_cons.mpr ⟨rfl, hprefix⟩)
          | afterLine _ hothers => exact .afterLine (c :: piece) hothers

/-! ## Trimming -/

theorem rdropWhile_begins (p : α → Bool) (line more : List α) :
    line.rdropWhile p <+: (line ++ more).rdropWhile p := by
  induction more using List.reverseRecOn with
  | nil =>
    simp only [List.append_nil, List.prefix_rfl]
  | append_singleton more c ih =>
    rw [← List.append_assoc, List.rdropWhile_concat]
    by_cases hc : p c = true
    · rw [if_pos hc]
      exact ih
    · rw [if_neg hc]
      have hline := List.rdropWhile_prefix p line
      exact hline.trans ((List.prefix_append line more).trans (List.prefix_append _ _))

theorem trimBy_eq (p : Char → Bool) (line : List Char) :
    trimBy p line = (line.dropWhile p).rdropWhile p := rfl

/-- Blanks at the end of a line may lie within a longer one, so they come back there. -/
theorem trimBy_begins (p : Char → Bool) {line longer : List Char} (h : line <+: longer) :
    trimBy p line <+: trimBy p longer := by
  obtain ⟨more, rfl⟩ := h
  rw [trimBy_eq, trimBy_eq, List.dropWhile_append]
  by_cases hblank : (line.dropWhile p).isEmpty = true
  · rw [List.isEmpty_iff.mp hblank, List.rdropWhile_nil]
    exact List.nil_prefix
  · rw [if_neg hblank]
    exact rdropWhile_begins p _ more

/-- Trimming leaves nothing exactly where there is nothing but what it takes off. -/
theorem trimBy_eq_nil_iff (p : Char → Bool) (line : List Char) :
    trimBy p line = [] ↔ ∀ c ∈ line, p c = true := by
  rw [trimBy_eq, List.rdropWhile_eq_nil_iff]
  constructor
  · intro h c hc
    rw [← List.takeWhile_append_dropWhile (p := p) (l := line), List.mem_append] at hc
    rcases hc with hfront | hback
    · exact List.mem_takeWhile_imp hfront
    · exact h c hback
  · intro h c hc
    exact h c ((List.dropWhile_suffix p).subset hc)

/-! ## Retained lines -/

/-- The lines that are left when all are trimmed and those of blanks are dropped. -/
def retained (lines : List (List Char)) : List (List Char) := (lines.map trim).filter (· ≠ [])

theorem retained_cons (line : List Char) (rest : List (List Char)) :
    retained (line :: rest) =
      if trim line = [] then retained rest else trim line :: retained rest := by
  unfold retained
  rw [List.map_cons]
  by_cases hblank : trim line = [] <;> simp [hblank]

theorem GoesOn.retained {lines longer : List (List Char)} (h : GoesOn lines longer) :
    GoesOn (retained lines) (Text.retained longer) := by
  induction h with
  | fromNothing longer => exact .fromNothing _
  | @withinLine line longer more hprefix =>
    have htrim : trim line <+: trim longer := trimBy_begins isBlank hprefix
    rw [retained_cons, retained_cons]
    by_cases hblank : trim line = []
    · rw [if_pos hblank]
      exact .fromNothing _
    · have hlonger : trim longer ≠ [] := fun hnil => hblank (List.prefix_nil.mp (hnil ▸ htrim))
      rw [if_neg hblank, if_neg hlonger]
      exact .withinLine _ htrim
  | afterLine line _ ih =>
    rw [retained_cons, retained_cons]
    by_cases hblank : trim line = []
    · rw [if_pos hblank, if_pos hblank]
      exact ih
    · rw [if_neg hblank, if_neg hblank]
      exact .afterLine _ ih

/-- The lines of a text that are plotted go on where the text goes on. -/
theorem goesOn_retainedLines (text more : List Char) :
    GoesOn (retainedLines text) (retainedLines (text ++ more)) :=
  (goesOn_splitAt '\n' text more).retained

/-! ## Characters that are replaced -/

section Replacing

variable {f : Char → Char}

theorem splitAt_map {sep : Char} (hf : ∀ c, f c = sep ↔ c = sep) (text : List Char) :
    splitAt sep (text.map f) = (splitAt sep text).map (·.map f) := by
  induction text with
  | nil => rfl
  | cons c rest ih =>
    rw [List.map_cons, splitAt, splitAt, ih]
    cases hsplit : splitAt sep rest with
    | nil => exact absurd hsplit (splitAt_ne_nil sep rest)
    | cons piece pieces => by_cases hc : c = sep <;> simp [hf, hc]

theorem trimBy_map {p : Char → Bool} (hf : ∀ c, p (f c) = p c) (line : List Char) :
    trimBy p (line.map f) = (trimBy p line).map f := by
  have hp : p ∘ f = p := funext hf
  unfold trimBy
  rw [List.dropWhile_map, hp, ← List.map_reverse, List.dropWhile_map, hp, ← List.map_reverse]

/-- Replaced one by one, characters keep their places in the lines, if none of them becomes a
blank or a line feed, or was one. -/
theorem retainedLines_map (hfeed : ∀ c, f c = '\n' ↔ c = '\n')
    (hblank : ∀ c, isBlank (f c) = isBlank c) (text : List Char) :
    retainedLines (text.map f) = (retainedLines text).map (·.map f) := by
  have htrim : trim ∘ List.map f = List.map f ∘ trim := funext fun line => trimBy_map hblank line
  have hnil : (fun line => decide (line ≠ [])) ∘ List.map f = fun line => decide (line ≠ []) :=
    funext fun line => by simp
  unfold retainedLines
  rw [splitAt_map hfeed, List.map_map, htrim, ← List.map_map, List.filter_map, hnil]

end Replacing

end PenPlot.Text
