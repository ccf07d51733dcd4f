-- What a font leaves unanswered: a character that has no advance, and a glyph that cannot be
-- drawn, since one of its strokes or a component somewhere below it cannot.
import PenPlot.Font.Tables

namespace PenPlot.Font

/-! ## Glyphs that cannot be drawn -/

/-- Strokes that cannot all be drawn: one of them cannot, or a component is nested too deeply,
or the strokes of a component cannot all be drawn where it stands. -/
inductive Undrawable (glyphs : GlyphSet) :
    List String → Nat → Stand → List Stroke → Prop
  | stroke {path : List String} {depth : Nat} {stand : Stand} {strokes : List Stroke} {s : Stroke}
      {fault : DrawingFault} : s ∈ strokes → stand.segments s = .error fault →
      Undrawable glyphs path depth stand strokes
  | tooDeep {path : List String} {depth : Nat} {stand : Stand} {strokes inner : List Stroke}
      {name : String} {t : Affine} : .component name t ∈ strokes →
      glyphs.find? name = some inner → name ∈ path ∨ maxDepth < depth + stand.step →
      Undrawable glyphs path depth stand strokes
  | within {path : List String} {depth : Nat} {stand : Stand} {strokes inner : List Stroke}
      {name : String} {t : Affine} : .component name t ∈ strokes →
      glyphs.find? name = some inner →
      Undrawable glyphs (name :: path) (depth + stand.step) (stand.component t) inner →
      Undrawable glyphs path depth stand strokes

variable {glyphs : GlyphSet} {path : List String} {depth : Nat} {stand : Stand}
  {strokes more : List Stroke}

/-- Strokes that come beside others do not help them. -/
theorem Undrawable.mono (h : Undrawable glyphs path depth stand strokes) (hsub : strokes ⊆ more) :
    Undrawable glyphs path depth stand more := by
  cases h with
  | stroke hs hfault => exact .stroke (hsub hs) hfault
  | tooDeep hs hfound hdeep => exact .tooDeep (hsub hs) hfound hdeep
  | within hs hfound hinner => exact .within (hsub hs) hfound hinner

theorem Sketch.fault?_andThen (a b : Sketch) : (a.andThen b).fault? = a.fault?.or b.fault? := by
  unfold Sketch.andThen
  cases ha : a.fault? <;> simp [ha]

/-- What a stroke meets where it is drawn, if anything. -/
def strokeFault? (glyphs : GlyphSet) (path : List String) (depth : Nat) (stand : Stand)
    (s : Stroke) : Option DrawingFault :=
  match s with
  | .component name t =>
    match glyphs.find? name with
    | none => none
    | some inner =>
      if name ∈ path ∨ maxDepth < depth + stand.step then some .tooDeep
      else (sketch glyphs (name :: path) (depth + stand.step) (stand.component t) inner).fault?
  | s =>
    match stand.segments s with
    | .error fault => some fault
    | .ok _ => none

theorem fault?_sketch_component (name : String) (t : Affine) (rest : List Stroke) :
    (sketch glyphs path depth stand (.component name t :: rest)).fault? =
      (strokeFault? glyphs path depth stand (.component name t)).or
        (sketch glyphs path depth stand rest).fault? := by
  rw [sketch, strokeFault?]
  split
  · rename_i hfound
    rw [hfound, Sketch.fault?_andThen]
  · rename_i inner hfound
    rw [hfound]
    by_cases hpath : name ∈ path
    · simp only [hpath, true_or, dite_true, if_true, Option.some_or]
    by_cases hdeep : maxDepth < depth + stand.step
    · simp only [hpath, hdeep, false_or, dite_false, if_true, Option.some_or]
    simp only [hpath, hdeep, false_or, dite_false, if_false]
    cases hpart : (sketch glyphs (name :: path) (depth + stand.step) (stand.component t)
        inner).fault? with
    | some fault => simp [hpart]
    | none => simp [hpart, Sketch.fault?_andThen]

theorem fault?_sketch_plain {s : Stroke} (hs : ∀ name t, s ≠ .component name t)
    (rest : List Stroke) : (sketch glyphs path depth stand (s :: rest)).fault? =
      (strokeFault? glyphs path depth stand s).or (sketch glyphs path depth stand rest).fault? := by
  have hmeets : strokeFault? glyphs path depth stand s =
      match stand.segments s with
      | .error fault => some fault
      | .ok _ => none := by
    cases s with
    | component name t => exact absurd rfl (hs name t)
    | _ => rfl
  rw [sketch, hmeets]
  · cases stand.segments s with
    | error fault => rfl
    | ok segments => rw [Sketch.fault?_andThen]
  · exact hs

/-- A drawing stops with a fault exactly when one of its strokes meets one. -/
theorem isSome_fault?_sketch : (sketch glyphs path depth stand strokes).fault?.isSome = true ↔
    ∃ s ∈ strokes, (strokeFault? glyphs path depth stand s).isSome = true := by
  induction strokes with
  | nil => simp [sketch]
  | cons s rest ih =>
    have hcons : (sketch glyphs path depth stand (s :: rest)).fault? =
        (strokeFault? glyphs path depth stand s).or
          (sketch glyphs path depth stand rest).fault? := by
      by_cases hs : ∃ name t, s = .component name t
      · obtain ⟨name, t, rfl⟩ := hs
        exact fault?_sketch_component name t rest
      · exact fault?_sketch_plain (fun name t h => hs ⟨name, t, h⟩) rest
    rw [hcons, Option.isSome_or, Bool.or_eq_true, ih]
    simp

theorem Undrawable.sketch (h : Undrawable glyphs path depth stand strokes) :
    (sketch glyphs path depth stand strokes).fault?.isSome = true := by
  induction h with
  | @stroke path depth stand strokes s fault hs hfault =>
    refine isSome_fault?_sketch.mpr ⟨s, hs, ?_⟩
    cases s with
    | component name t => cases hfault
    | _ => simp only [strokeFault?, hfault, Option.isSome_some]
  | @tooDeep path depth stand strokes inner name t hs hfound hdeep =>
    refine isSome_fault?_sketch.mpr ⟨_, hs, ?_⟩
    simp only [strokeFault?, hfound, hdeep, if_true, Option.isSome_some]
  | @within path depth stand strokes inner name t hs hfound _ ih =>
    refine isSome_fault?_sketch.mpr ⟨_, hs, ?_⟩
    simp only [strokeFault?, hfound]
    by_cases hdeep : name ∈ path ∨ maxDepth < depth + stand.step
    · rw [if_pos hdeep]
      rfl
    · rw [if_neg hdeep]
      exact ih

variable {t : Tables} {c : Char}

end PenPlot.Font
