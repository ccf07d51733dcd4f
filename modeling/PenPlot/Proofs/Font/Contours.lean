-- What a glyph becomes. A font draws contours, one after the other, with components between them;
-- the outline has one contour for each contour that is reached through the components, in the order
-- in which they are drawn.
import Mathlib.Data.List.Forall2
import Mathlib.Logic.Relation
import PenPlot.Font.Drawing

namespace PenPlot.Font

open PenPlot.Geometry

/-! ## Contours of a font -/

/-- What a contour goes on with: a line, or a run of curves with one point at least. -/
inductive Run where
  | line (p : Spot)
  | curve (first : Spot) (more : List Spot)
  | quad (first : Spot) (more : List Spot)

/-- The stroke of a run. -/
def Run.stroke : Run → Stroke
  | .line p => .lineTo p
  | .curve first more => .curveTo (first :: more)
  | .quad first more => .quadTo (first :: more)

/-- A contour as a font draws it: from a point on along runs, closed or left open, or a closed loop
of quadratic curves with control points alone. -/
inductive Contour where
  | path (start : Spot) (runs : List Run) (closes : Bool)
  | loop (first : Spot) (more : List Spot)

/-- Whether a contour is closed. -/
def Contour.closes : Contour → Bool
  | .path _ _ closes => closes
  | .loop _ _ => true

/-- The strokes of a contour. -/
def Contour.strokes : Contour → List Stroke
  | .path start runs closes =>
    .moveTo start :: (runs.map Run.stroke ++ [if closes then .closePath else .endPath])
  | .loop first more => [.quadLoop (first :: more), .closePath]

/-- A glyph has another one as a component. -/
def Refers (glyphs : GlyphSet) (name other : String) : Prop :=
  ∃ strokes t, glyphs.find? name = some strokes ∧ .component other t ∈ strokes

/-- The contours that strokes reach, each with where it stands, in the order in which they are
drawn. A component that is missing is passed over. -/
inductive Reaches (glyphs : GlyphSet) : Stand → List Stroke → List (Stand × Contour) → Prop
  | nil {stand : Stand} : Reaches glyphs stand [] []
  | contour {stand : Stand} {rest : List Stroke} {found : List (Stand × Contour)} (c : Contour) :
      Reaches glyphs stand rest found →
      Reaches glyphs stand (c.strokes ++ rest) ((stand, c) :: found)
  | missing {stand : Stand} {rest : List Stroke} {found : List (Stand × Contour)} {name : String}
      {t : Affine} : glyphs.find? name = none → Reaches glyphs stand rest found →
      Reaches glyphs stand (.component name t :: rest) found
  | component {stand : Stand} {inner rest : List Stroke} {within found : List (Stand × Contour)}
      {name : String} {t : Affine} : glyphs.find? name = some inner →
      Reaches glyphs (stand.component t) inner within → Reaches glyphs stand rest found →
      Reaches glyphs stand (.component name t :: rest) (within ++ found)

/-- Strokes whose components are nested more deeply than drawings may be. -/
inductive TooDeep (glyphs : GlyphSet) : Nat → Stand → List Stroke → Prop
  | here {depth : Nat} {stand : Stand} {strokes inner : List Stroke} {name : String} {t : Affine} :
      .component name t ∈ strokes → glyphs.find? name = some inner →
      maxDepth < depth + stand.step → TooDeep glyphs depth stand strokes
  | within {depth : Nat} {stand : Stand} {strokes inner : List Stroke} {name : String}
      {t : Affine} : .component name t ∈ strokes → glyphs.find? name = some inner →
      TooDeep glyphs (depth + stand.step) (stand.component t) inner →
      TooDeep glyphs depth stand strokes

/-! ## Contours of an outline -/

/-- A contour of an outline: one move, then curves, and a closing segment if it closes. -/
structure Shape where
  start : Spot
  curves : List (Curve Float)
  closes : Bool

/-- The segments of a contour of an outline. -/
def Shape.segments (s : Shape) : List (Segment Float) :=
  .moveTo s.start :: (s.curves.map .draw ++ if s.closes then [.closePath] else [])

/-- A contour of an outline shows a contour of the font: its segments are those of the strokes of
the contour, drawn where it stands, and it closes if the contour does. -/
structure Shows (stand : Stand) (c : Contour) (shape : Shape) : Prop where
  drawn : ∃ parts, List.Forall₂ (fun s part => stand.segments s = .ok part) c.strokes parts ∧
    shape.segments = parts.flatten
  closes : shape.closes = c.closes

variable {glyphs : GlyphSet} {path : List String} {depth : Nat} {stand : Stand}
  {strokes rest : List Stroke}

theorem quadRun_draws (stop a : Spot) (controls : List Spot) :
    ∃ curves : List (Curve Float), quadRun stop a controls = curves.map .draw := by
  induction controls generalizing a with
  | nil => exact ⟨[.quad a stop], rfl⟩
  | cons b rest ih =>
    obtain ⟨curves, hcurves⟩ := ih b
    exact ⟨.quad a (midpoint a b) :: curves, by rw [quadRun, hcurves, List.map_cons]⟩

theorem cubicRun_draws (control last stop : Spot) (inner : List Spot) :
    ∃ curves : List (Curve Float), cubicRun control last stop inner = curves.map .draw := by
  fun_induction cubicRun control last stop inner with
  | case1 control second next rest ih =>
    obtain ⟨curves, hcurves⟩ := ih
    exact ⟨.cubic control second (midpoint second next) :: curves, by rw [hcurves, List.map_cons]⟩
  | case2 control' inner' hinner => exact ⟨[.cubic _ last stop], rfl⟩

theorem quadSegments_draws {points : List Spot} (h : points ≠ []) :
    ∃ curves : List (Curve Float), quadSegments points = .ok (curves.map .draw) := by
  match points with
  | [p] => exact ⟨[.line p], rfl⟩
  | first :: second :: rest =>
    obtain ⟨stop, controls, hreverse⟩ :
        ∃ stop controls, (second :: rest).reverse = stop :: controls :=
      List.exists_cons_of_ne_nil (by simp)
    obtain ⟨curves, hcurves⟩ := quadRun_draws stop first controls.reverse
    exact ⟨curves, by simp only [quadSegments, hreverse, hcurves]⟩

theorem curveSegments_draws {points : List Spot} (h : points ≠ []) :
    ∃ curves : List (Curve Float), curveSegments points = .ok (curves.map .draw) := by
  match points with
  | [p] => exact quadSegments_draws h
  | [p, q] => exact quadSegments_draws h
  | [a, b, c] => exact ⟨[.cubic a b c], rfl⟩
  | first :: b :: c :: d :: rest =>
    obtain ⟨stop, last, before, hreverse⟩ :
        ∃ stop last before, (first :: b :: c :: d :: rest).reverse = stop :: last :: before := by
      match hreverse : (first :: b :: c :: d :: rest).reverse with
      | [] => simp at hreverse
      | [x] => simpa using congrArg List.length hreverse
      | stop :: last :: before => exact ⟨stop, last, before, rfl⟩
    obtain ⟨curves, hcurves⟩ := cubicRun_draws first last stop
      (innerPoints (first :: b :: c :: d :: rest).dropLast.length 2
        (first :: b :: c :: d :: rest).dropLast)
    exact ⟨curves, by simp only [curveSegments, hreverse, hcurves]⟩

/-- Every run draws curves, wherever it stands. -/
theorem Run.draws (stand : Stand) (run : Run) :
    ∃ curves : List (Curve Float), stand.segments run.stroke = .ok (curves.map .draw) := by
  cases run with
  | line p => exact ⟨[.line (stand.apply p)], rfl⟩
  | curve first more => exact curveSegments_draws (by simp)
  | quad first more =>
    have hpoints : (first :: more).map stand.apply ≠ [] := by simp
    obtain ⟨curves, hcurves⟩ := quadSegments_draws hpoints
    refine ⟨curves, ?_⟩
    cases stand <;> exact hcurves

theorem runs_draw (stand : Stand) (runs : List Run) :
    ∃ parts, List.Forall₂ (fun s part => stand.segments s = .ok part) (runs.map Run.stroke) parts ∧
      ∃ curves : List (Curve Float), parts.flatten = curves.map .draw := by
  induction runs with
  | nil => exact ⟨[], .nil, [], rfl⟩
  | cons run rest ih =>
    obtain ⟨first, hfirst⟩ := run.draws stand
    obtain ⟨parts, hparts, curves, hcurves⟩ := ih
    refine ⟨first.map .draw :: parts, .cons hfirst hparts, first ++ curves, ?_⟩
    rw [List.flatten_cons, hcurves, List.map_append]

/-- Every contour of a font is shown by a contour of an outline, wherever it stands. -/
theorem exists_shows (stand : Stand) (c : Contour) : ∃ shape, Shows stand c shape := by
  cases c with
  | path start runs closes =>
    obtain ⟨parts, hparts, curves, hcurves⟩ := runs_draw stand runs
    refine ⟨⟨stand.apply start, curves, closes⟩, ⟨?_, rfl⟩⟩
    have hlast : ∃ part, stand.segments (if closes then .closePath else .endPath) = .ok part ∧
        part = if closes then [.closePath] else [] := by
      cases closes <;> exact ⟨_, rfl, rfl⟩
    obtain ⟨part, hpart, hclosing⟩ := hlast
    refine ⟨[.moveTo (stand.apply start)] :: (parts ++ [part]),
      .cons rfl (List.rel_append hparts (.cons hpart .nil)), ?_⟩
    simp [Shape.segments, hcurves, hclosing]
  | loop first more =>
    obtain ⟨last, hlast⟩ : ∃ last, ((first :: more).map stand.apply).getLast? = some last :=
      Option.isSome_iff_exists.mp (by simp)
    obtain ⟨curves, hcurves⟩ := quadRun_draws (midpoint last (stand.apply first))
      (stand.apply first) (more.map stand.apply)
    refine ⟨⟨midpoint last (stand.apply first), curves, true⟩, ⟨?_, rfl⟩⟩
    refine ⟨[.moveTo (midpoint last (stand.apply first)) :: curves.map .draw, [.closePath]],
      .cons ?_ (.cons rfl .nil), by simp [Shape.segments]⟩
    rw [← hcurves]
    simp only [Stand.segments, List.map_cons, loopSegments] at hlast ⊢
    simp only [hlast]

end PenPlot.Font
