-- Drawings: a glyph is a list of strokes, and some of them put other glyphs,
-- its components, in their place. Reading the strokes gives the segments of an
-- outline: runs of curves are split into single ones, and components are drawn
-- where their transforms put them.
import PenPlot.Font.Fault
import PenPlot.Font.Outline

namespace PenPlot.Font

open PenPlot.Geometry

/-- A point of a glyph. -/
abbrev Spot := Point Float

/-! ## Transforms -/

/-- A linear map followed by a shift. -/
structure Affine where
  xx : Float
  xy : Float
  yx : Float
  yy : Float
  dx : Float
  dy : Float
  deriving DecidableEq, Repr

/-- Whether a transform leaves every point where it is. -/
def Affine.isIdentity (t : Affine) : Bool :=
  t.xx == 1 && t.xy == 0 && t.yx == 0 && t.yy == 1 && t.dx == 0 && t.dy == 0

/-- The image of a point. -/
def Affine.apply (t : Affine) (p : Spot) : Spot :=
  ⟨t.xx * p.x + t.yx * p.y + t.dx, t.xy * p.x + t.yy * p.y + t.dy⟩

/-- The transform `inner`, then the transform `outer`. -/
def Affine.after (outer inner : Affine) : Affine where
  xx := inner.xx * outer.xx + inner.xy * outer.yx
  xy := inner.xx * outer.xy + inner.xy * outer.yy
  yx := inner.yx * outer.xx + inner.yy * outer.yx
  yy := inner.yx * outer.xy + inner.yy * outer.yy
  dx := outer.xx * inner.dx + outer.yx * inner.dy + outer.dx
  dy := outer.xy * inner.dx + outer.yy * inner.dy + outer.dy

/-- Where a drawing stands: where it was drawn, or moved by a transform. -/
inductive Stand where
  | asDrawn
  | moved (transform : Affine)

/-- The place of a point of the drawing. -/
def Stand.apply : Stand → Spot → Spot
  | .asDrawn, p => p
  | .moved t, p => t.apply p

/-- Where a component stands within a drawing. A transform that moves nothing
is left out. -/
def Stand.component (outer : Stand) (inner : Affine) : Stand :=
  let t := match outer with
    | .asDrawn => inner
    | .moved s => s.after inner
  if t.isIdentity then .asDrawn else .moved t

/-! ## Strokes and runs of curves -/

/-- A stroke of a glyph. A curve has any number of control points before its
last point; a loop of quadratic curves has control points only. A curve that is
given one control point and a null is a loop where it is drawn as it is. A stroke
with a null in any other place cannot be drawn. -/
inductive Stroke where
  | moveTo (p : Spot)
  | lineTo (p : Spot)
  | curveTo (points : List Spot)
  | quadTo (points : List Spot)
  | quadLoop (controls : List Spot)
  | curveLoop (control : Spot)
  | unplaced
  | closePath
  | endPath
  | component (name : String) (transform : Affine)
  deriving Repr

/-- The point half way between two points. -/
def midpoint (a b : Spot) : Spot := ⟨0.5 * (a.x + b.x), 0.5 * (a.y + b.y)⟩

/-- The quadratic curves through a run of control points `a`, ...: between two
of them one curve ends and the next one starts, and the last ends at `stop`. -/
def quadRun (stop : Spot) : Spot → List Spot → List (Segment Float)
  | a, [] => [.draw (.quad a stop)]
  | a, b :: rest => .draw (.quad a (midpoint a b)) :: quadRun stop b rest

/-- The point at the share `j / k` of the way from `a` to `b`. -/
def shareOf (a b : Spot) (j k : Nat) : Spot :=
  let f := Float.ofNat j / Float.ofNat k
  ⟨a.x + f * (b.x - a.x), a.y + f * (b.y - a.y)⟩

/-- The inner points of a run of `count` cubic control points: one between the
first two controls, one between the last two, and two between any others. The
number `i` counts the controls up to the second one of the pair. -/
def innerPoints (count : Nat) : Nat → List Spot → List Spot
  | i, a :: b :: rest =>
    let k := min i (min 3 (count - i + 2))
    (List.range (k - 1)).map (fun j => shareOf a b (j + 1) k) ++
      innerPoints count (i + 1) (b :: rest)
  | _, _ => []

/-- Cubic curves from inner points, taken in pairs: half way between the two one
curve ends and the next one starts, so that the join is smooth. -/
def cubicRun (control last stop : Spot) : List Spot → List (Segment Float)
  | second :: next :: rest =>
    .draw (.cubic control second (midpoint second next)) :: cubicRun next last stop rest
  | _ => [.draw (.cubic control last stop)]

/-! ## The segments of a stroke -/

/-- The segments of a quadratic run with the points given: a line for a single
point. -/
def quadSegments : List Spot → Except DrawingFault (List (Segment Float))
  | [] => .error .curveWithoutPoints
  | [p] => .ok [.draw (.line p)]
  | first :: rest =>
    match rest.reverse with
    | [] => .error .curveWithoutPoints
    | stop :: controls => .ok (quadRun stop first controls.reverse)

/-- The segments of a loop of quadratic curves: it starts and ends half way
between its last and its first control point. -/
def loopSegments (controls : List Spot) : Except DrawingFault (List (Segment Float)) :=
  match controls, controls.getLast? with
  | first :: rest, some last =>
    let start := midpoint last first
    .ok (.moveTo start :: quadRun start first rest)
  | _, _ => .error .missingPoint

/-- The segments of a cubic run: a quadratic run where there is one control
point at most, one curve where there are two, and otherwise as many curves as
there are controls less one, joined smoothly. -/
def curveSegments (points : List Spot) : Except DrawingFault (List (Segment Float)) :=
  match points with
  | [] => .error .curveWithoutPoints
  | [_] | [_, _] => quadSegments points
  | [a, b, c] => .ok [.draw (.cubic a b c)]
  | first :: _ =>
    match points.reverse with
    | stop :: last :: _ =>
      let controls := points.dropLast
      .ok (cubicRun first last stop (innerPoints controls.length 2 controls))
    | _ => .error .curveWithoutPoints

/-- The segments of a stroke that is not a component. A run that is moved is
looked at from its end first. -/
def Stand.segments (stand : Stand) : Stroke → Except DrawingFault (List (Segment Float))
  | .moveTo p => .ok [.moveTo (stand.apply p)]
  | .lineTo p => .ok [.draw (.line (stand.apply p))]
  | .curveTo points => curveSegments (points.map stand.apply)
  | .quadTo points =>
    match stand, points with
    | .moved _, [] => .error .missingPoint
    | _, _ => quadSegments (points.map stand.apply)
  | .quadLoop controls => loopSegments (controls.map stand.apply)
  | .curveLoop control =>
    match stand with
    | .asDrawn => loopSegments [control]
    | .moved _ => .error .nullPoint
  | .unplaced => .error .nullPoint
  | .closePath => .ok [.closePath]
  | .endPath => .ok []
  | .component _ _ => .ok []

/-! ## Drawing with components -/

/-- What came of drawing: the segments, the names of the components that are
missing, and the fault at which the drawing stopped. -/
structure Sketch where
  segments : List (Segment Float)
  missing : List String
  fault? : Option DrawingFault
  deriving Repr

/-- A drawing goes on with another one, unless it stopped. -/
def Sketch.andThen (a b : Sketch) : Sketch :=
  match a.fault? with
  | some _ => a
  | none => ⟨a.segments ++ b.segments, a.missing ++ b.missing, b.fault?⟩

/-- The strokes of the glyphs of a font, by name. -/
abbrev GlyphSet := List (String × List Stroke)

/-- The strokes of a glyph. Where a name occurs twice the last one counts. -/
def GlyphSet.find? (glyphs : GlyphSet) (name : String) : Option (List Stroke) :=
  (List.find? (fun g => g.1 == name) glyphs.reverse).map Prod.snd

/-- A glyph that is found is one of the set. -/
theorem GlyphSet.exists_of_find? {glyphs : GlyphSet} {name : String} {strokes : List Stroke}
    (h : glyphs.find? name = some strokes) : ∃ g ∈ glyphs, g.1 = name := by
  simp only [GlyphSet.find?, Option.map_eq_some_iff] at h
  obtain ⟨g, hg, _⟩ := h
  exact ⟨g, List.mem_reverse.1 (List.mem_of_find?_eq_some hg), by simpa using List.find?_some hg⟩

/-- How deep drawings may be nested. -/
def maxDepth : Nat := 980

/-- What a component adds to the depth of the drawing that it is in: a drawing that
is moved has to move its components as well. -/
def Stand.step : Stand → Nat
  | .asDrawn => 2
  | .moved _ => 3

/-- Draws the strokes of a glyph that stands within the glyphs of `path`, at a
depth. A missing component is skipped, and one of the path would never end. -/
def sketch (glyphs : GlyphSet) (path : List String) (depth : Nat) (stand : Stand) :
    List Stroke → Sketch
  | [] => ⟨[], [], none⟩
  | .component name t :: rest =>
    match _found : glyphs.find? name with
    | none => Sketch.andThen ⟨[], [name], none⟩ (sketch glyphs path depth stand rest)
    | some strokes =>
      if _fresh : name ∈ path then ⟨[], [], some .tooDeep⟩
      else if maxDepth < depth + stand.step then ⟨[], [], some .tooDeep⟩
      else
        let part := sketch glyphs (name :: path) (depth + stand.step) (stand.component t) strokes
        if part.fault?.isSome then part else part.andThen (sketch glyphs path depth stand rest)
  | stroke :: rest =>
    match stand.segments stroke with
    | .error fault => ⟨[], [], some fault⟩
    | .ok segments => Sketch.andThen ⟨segments, [], none⟩ (sketch glyphs path depth stand rest)
termination_by strokes => ((glyphs.filter fun g => g.1 ∉ path).length, strokes.length)
decreasing_by
  · exact Prod.Lex.right _ (by simp)
  · refine Prod.Lex.left _ _ ?_
    obtain ⟨g, hg, rfl⟩ := GlyphSet.exists_of_find? _found
    have hsub : (glyphs.filter fun x => x.1 ∉ g.1 :: path) =
        (glyphs.filter fun x => x.1 ∉ path).filter fun x => x.1 ≠ g.1 := by
      rw [List.filter_filter]
      apply List.filter_congr
      intro x _
      simp [not_or]
    rw [hsub]
    refine List.length_filter_lt_length_iff_exists.2 ⟨g, ?_, by simp⟩
    exact List.mem_filter.2 ⟨hg, by simpa using _fresh⟩
  · exact Prod.Lex.right _ (by simp)
  · exact Prod.Lex.right _ (by simp)

end PenPlot.Font
