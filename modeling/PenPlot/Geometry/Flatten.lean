-- Flattening: a curve becomes the points of a polyline. The curve is sampled
-- at equal steps of its parameter, by repeated interpolation, and a sample
-- equal to the point before it is dropped.
import PenPlot.Geometry.Segment

namespace PenPlot.Geometry

/-- A whole number as a double. -/
instance floatNatCast : NatCast Float := ⟨Float.ofNat⟩

variable {α : Type} [Add α] [Sub α] [Mul α]

/-- The point at the share `t` of the way from `a` to `b`. -/
def lerp (a b : Point α) (t : α) : Point α :=
  ⟨a.x + (b.x - a.x) * t, a.y + (b.y - a.y) * t⟩

/-- The quadratic curve from `a` over `c` to `b` at the parameter `t`. -/
def quadPoint (a c b : Point α) (t : α) : Point α := lerp (lerp a c t) (lerp c b t) t

/-- The cubic curve from `a` over `c` and `d` to `b` at the parameter `t`. -/
def cubicPoint (a c d b : Point α) (t : α) : Point α :=
  let p := lerp a c t
  let q := lerp c d t
  let r := lerp d b t
  lerp (lerp p q t) (lerp q r t) t

/-- The point of a curve that starts at `start`, at the parameter `t`. -/
def Curve.at (start : Point α) (t : α) : Curve α → Point α
  | .line p => lerp start p t
  | .quad c p => quadPoint start c p t
  | .cubic c d p => cubicPoint start c d p t

/-- The list without the elements equal to the one before them, where `last`
stands before the first. -/
def dropRepeats {β : Type} [BEq β] (last : β) : List β → List β
  | [] => []
  | b :: rest => if b == last then dropRepeats last rest else b :: dropRepeats b rest

/-- Dropping repeats keeps the order of what is left. -/
theorem dropRepeats_sublist {β : Type} [BEq β] (last : β) (bs : List β) :
    (dropRepeats last bs).Sublist bs := by
  induction bs generalizing last with
  | nil => simp [dropRepeats]
  | cons b rest ih =>
    rw [dropRepeats]
    split
    · exact (ih last).cons b
    · exact (ih b).cons_cons b

variable [Div α] [NatCast α]

/-- The samples of a curve: for a line its end; otherwise the points at the
parameters `i / steps` for `i` below `steps`, and the end itself. -/
def Curve.samples (start : Point α) (steps : Nat) : Curve α → List (Point α)
  | .line p => [p]
  | c => ((List.range steps).map fun (i : Nat) => c.at start ((i : α) / (steps : α))) ++ [c.stop]

/-- The points to draw to, one after the other, from `start` to the end of the
curve. -/
def Curve.flatten [BEq α] (start : Point α) (steps : Nat) (c : Curve α) : List (Point α) :=
  dropRepeats start (c.samples start steps)

/-- Why a segment cannot be flattened. -/
inductive FlattenError where
  | tooFewSteps (steps : Int)
  | notDrawing (kind : String)
  deriving DecidableEq, Repr

/-- The wording of the error. -/
def FlattenError.message : FlattenError → String
  | .tooFewSteps steps => "steps must be >= 1, got " ++ toString steps
  | .notDrawing kind => "cannot flatten " ++ kind

/-- Flattens a segment that draws, in one step at least. -/
def Segment.flatten? [BEq α] (start : Point α) (steps : Int) (s : Segment α) :
    Except FlattenError (List (Point α)) :=
  if steps < 1 then .error (.tooFewSteps steps)
  else
    match s with
    | .draw c => .ok (c.flatten start steps.toNat)
    | other => .error (.notDrawing other.kindName)

end PenPlot.Geometry
