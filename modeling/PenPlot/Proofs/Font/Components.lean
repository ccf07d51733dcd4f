-- Drawing with components. Where no glyph is a component of itself and the nesting is not too deep,
-- a glyph becomes an outline whose contours are those that its strokes reach.
import PenPlot.Proofs.Compilation.Outcome
import PenPlot.Proofs.Font.Contours
import PenPlot.Proofs.Font.Tables
import PenPlot.Proofs.Toolpath.Finite

namespace PenPlot.Font

open PenPlot.Geometry

variable {glyphs : GlyphSet} {path : List String} {depth : Nat} {stand : Stand}
  {strokes rest : List Stroke}

/-! ## Strokes that are drawn -/

/-- Strokes draw contours: those that they reach, each where it stands. -/
def Draws (glyphs : GlyphSet) (stand : Stand) (strokes : List Stroke) (s : Sketch) : Prop :=
  s.fault? = none ∧ ∃ found shapes, Reaches glyphs stand strokes found ∧
    List.Forall₂ (fun p shape => Shows p.1 p.2 shape) found shapes ∧
    s.segments = shapes.flatMap Shape.segments

namespace Draws

variable {s part : Sketch} {name : String} {t : Affine}

/-- A contour is drawn before the strokes after it. -/
theorem contour {c : Contour} {shape : Shape} (hshape : Shows stand c shape)
    (h : Draws glyphs stand rest s) :
    Draws glyphs stand (c.strokes ++ rest) (Sketch.andThen ⟨shape.segments, [], none⟩ s) := by
  obtain ⟨hfault, found, shapes, hreaches, hshows, hsegments⟩ := h
  refine ⟨hfault, (stand, c) :: found, shape :: shapes, .contour c hreaches,
    .cons hshape hshows, ?_⟩
  simp only [Sketch.andThen, hsegments, List.flatMap_cons]

/-- A component that is missing draws nothing. -/
theorem missing (hfound : glyphs.find? name = none) (h : Draws glyphs stand rest s) :
    Draws glyphs stand (.component name t :: rest) (Sketch.andThen ⟨[], [name], none⟩ s) := by
  obtain ⟨hfault, found, shapes, hreaches, hshows, hsegments⟩ := h
  refine ⟨hfault, found, shapes, .missing hfound hreaches, hshows, ?_⟩
  simpa only [Sketch.andThen, List.nil_append] using hsegments

/-- A component draws the contours of its glyph, moved to where it stands. -/
theorem component {inner : List Stroke} (hfound : glyphs.find? name = some inner)
    (hpart : Draws glyphs (stand.component t) inner part) (h : Draws glyphs stand rest s) :
    Draws glyphs stand (.component name t :: rest) (part.andThen s) := by
  obtain ⟨hnone, within, parts, hwithin, hparts, hpartSegments⟩ := hpart
  obtain ⟨hfault, found, shapes, hreaches, hshows, hsegments⟩ := h
  refine ⟨by rw [Sketch.fault?_andThen, hnone, hfault]; rfl, within ++ found, parts ++ shapes,
    .component hfound hwithin hreaches, List.rel_append hparts hshows, ?_⟩
  simp only [Sketch.andThen, hnone, hpartSegments, hsegments, List.flatMap_append]

end Draws

theorem TooDeep.mono {more : List Stroke} (h : TooDeep glyphs depth stand strokes)
    (hsub : strokes ⊆ more) : TooDeep glyphs depth stand more := by
  cases h with
  | here hs hfound hdeep => exact .here (hsub hs) hfound hdeep
  | within hs hfound hinner => exact .within (hsub hs) hfound hinner

/-- Every glyph of a path has each component among some strokes below it. -/
def Above (glyphs : GlyphSet) (path : List String) (strokes : List Stroke) : Prop :=
  ∀ name ∈ path, ∀ other t, .component other t ∈ strokes →
    Relation.TransGen (Refers glyphs) name other

theorem Above.mono {fewer : List Stroke} (h : Above glyphs path strokes) (hsub : fewer ⊆ strokes) :
    Above glyphs path fewer :=
  fun name hname other t hother => h name hname other t (hsub hother)

theorem Above.within {name : String} {t : Affine} {inner : List Stroke}
    (h : Above glyphs path strokes) (hname : .component name t ∈ strokes)
    (hfound : glyphs.find? name = some inner) : Above glyphs (name :: path) inner := by
  intro upper hupper other t' hother
  have hrefers : Refers glyphs name other := ⟨inner, t', hfound, hother⟩
  rcases List.mem_cons.mp hupper with rfl | hpath
  · exact .single hrefers
  · exact (h upper hpath name t hname).tail hrefers

variable {last : Nat}

end PenPlot.Font
