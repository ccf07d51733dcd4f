-- What the head does, said once for each kind of segment: the commands that it
-- gives, and where it is afterwards. Every law of the toolpath is read off
-- these equations, and none of them opens the head again.
import PenPlot.Toolpath

namespace PenPlot.Toolpath

open PenPlot.Geometry

/-! ## Glyph after glyph -/

/-- Traces glyphs one after the other; the head goes on from where it is. -/
def traceAll (m : Settings.Machine) : List (List (Segment Float)) → Head → Motion
  | [], h => ([], h)
  | glyph :: rest, h => (trace m glyph h).andThen (traceAll m rest)

theorem traceAll_append (m : Settings.Machine) (a b : List (List (Segment Float))) (h : Head) :
    traceAll m (a ++ b) h = (traceAll m a h).andThen (traceAll m b) := by
  induction a generalizing h with
  | nil => simp [traceAll, Motion.andThen]
  | cons glyph rest ih =>
    have next : traceAll m (rest ++ b) = fun h => (traceAll m rest h).andThen (traceAll m b) :=
      funext ih
    rw [List.cons_append, traceAll, traceAll, next, Motion.andThen_assoc]

/-! ## Tracing with its checks

A curve is flattened in one step at least, and only what draws is flattened. Here the
checks of that stand where the tracing meets them, so that a law can say that none of
them ever fails. -/

/-- A motion that may fail goes on with one that may fail. -/
def Motion.andThen? (a : Except FlattenError Motion) (next : Head → Except FlattenError Motion) :
    Except FlattenError Motion := do
  let r ← a
  let b ← next r.2
  pure (r.1 ++ b.1, b.2)

/-- What the head does for a segment, the flattening with its checks. -/
def Head.step? (m : Settings.Machine) (s : Segment Float) (h : Head) :
    Except FlattenError Motion :=
  match s with
  | .draw _ => do
    let points ← s.flatten? h.position m.curveSteps.value
    pure ((h.drawAll m points).andThen Head.lower)
  | _ => pure (h.step m s)

/-- What the head does for segments, with the checks. -/
def Head.steps? (m : Settings.Machine) : List (Segment Float) → Head → Except FlattenError Motion
  | [], h => pure ([], h)
  | s :: rest, h => Motion.andThen? (h.step? m s) (Head.steps? m rest)

/-- Traces the segments of a glyph, with the checks. -/
def trace? (m : Settings.Machine) (segments : List (Segment Float)) (h : Head) :
    Except FlattenError Motion := do
  let r ← (Head.at h.position).steps? m segments
  pure (r.andThen Head.lift)

/-- Traces glyphs one after the other, with the checks. -/
def traceAll? (m : Settings.Machine) : List (List (Segment Float)) → Head →
    Except FlattenError Motion
  | [], h => pure ([], h)
  | glyph :: rest, h => Motion.andThen? (trace? m glyph h) (traceAll? m rest)

theorem Motion.andThen?_ok (a : Motion) (f : Head → Except FlattenError Motion) (g : Head → Motion)
    (h : ∀ head, f head = .ok (g head)) : Motion.andThen? (.ok a) f = .ok (a.andThen g) := by
  unfold Motion.andThen? Motion.andThen
  simp only [bind, Except.bind, h]
  rfl

/-- A machine flattens in one step at least, so the checks hold at every segment. -/
theorem Head.step?_eq (m : Settings.Machine) (s : Segment Float) (h : Head) :
    h.step? m s = .ok (h.step m s) := by
  rcases s with p | c | _
  · rfl
  · have hsteps : ¬ ((m.curveSteps.value : Int) < 1) := by
      have := m.curveSteps.atLeast
      omega
    unfold Head.step? Segment.flatten?
    simp only [hsteps, if_false, Int.toNat_natCast]
    rfl
  · rfl

theorem Head.steps?_eq (m : Settings.Machine) (segments : List (Segment Float)) (h : Head) :
    h.steps? m segments = .ok (h.steps m segments) := by
  induction segments generalizing h with
  | nil => rfl
  | cons s rest ih =>
    rw [Head.steps?, Head.step?_eq, Motion.andThen?_ok _ _ _ ih, Head.steps]

theorem trace?_eq (m : Settings.Machine) (segments : List (Segment Float)) (h : Head) :
    trace? m segments h = .ok (trace m segments h) := by
  unfold trace? trace
  rw [Head.steps?_eq]
  rfl

/-- No check ever fails: tracing with checks is tracing. -/
theorem traceAll?_eq (m : Settings.Machine) (glyphs : List (List (Segment Float))) (h : Head) :
    traceAll? m glyphs h = .ok (traceAll m glyphs h) := by
  induction glyphs generalizing h with
  | nil => rfl
  | cons g rest ih => rw [traceAll?, trace?_eq, Motion.andThen?_ok _ _ _ ih, traceAll]

/-! ## Where the head goes -/

/-- The positions that a head at `p` goes to when it is sent to one position after the
other: those where it is already are left out. -/
def kept (m : Settings.Machine) : Position → List Position → List Position
  | _, [] => []
  | p, q :: rest => if same m q p then kept m p rest else q :: kept m q rest

/-- Where a head at `p` is after it was sent to one position after the other. -/
def settled (m : Settings.Machine) (p : Position) (qs : List Position) : Position :=
  (kept m p qs).getLastD p

/-- What raises the pen. -/
def lifting : Pen → List Command
  | .down => [.lift]
  | .up => []

/-- What brings the pen down. -/
def lowering : Pen → List Command
  | .up => [.lower]
  | .down => []

@[simp] theorem settled_nil (m : Settings.Machine) (p : Position) : settled m p [] = p := rfl

theorem settled_cons (m : Settings.Machine) (p q : Position) (rest : List Position) :
    settled m p (q :: rest) = settled m (settled m p [q]) rest := by
  unfold settled
  by_cases hs : same m q p
  · simp [kept, hs]
  · simp only [kept, hs, Bool.false_eq_true, if_false, List.getLastD_cons, List.getLastD_nil]

theorem kept_cons (m : Settings.Machine) (p q : Position) (rest : List Position) :
    kept m p (q :: rest) = kept m p [q] ++ kept m (settled m p [q]) rest := by
  unfold settled
  by_cases hs : same m q p
  · simp [kept, hs]
  · simp [kept, hs]

theorem settled_append (m : Settings.Machine) (p : Position) (a b : List Position) :
    settled m p (a ++ b) = settled m (settled m p a) b := by
  induction a generalizing p with
  | nil => rfl
  | cons q rest ih =>
    rw [List.cons_append, settled_cons, ih, ← settled_cons]

theorem kept_append (m : Settings.Machine) (p : Position) (a b : List Position) :
    kept m p (a ++ b) = kept m p a ++ kept m (settled m p a) b := by
  induction a generalizing p with
  | nil => rfl
  | cons q rest ih =>
    rw [List.cons_append, kept_cons, ih, ← List.append_assoc, ← kept_cons, ← settled_cons]

/-! ## What each motion is -/

theorem Head.lift_eq (h : Head) : h.lift = (lifting h.pen, { h with pen := .up }) := by
  rcases h with ⟨p, _ | _, c⟩ <;> rfl

theorem Head.lower_eq (h : Head) : h.lower = (lowering h.pen, { h with pen := .down }) := by
  rcases h with ⟨p, _ | _, c⟩ <;> rfl

theorem Head.drawTo_eq (m : Settings.Machine) (q : Position) (h : Head) :
    h.drawTo m q = (lowering h.pen ++ (kept m h.position [q]).map .draw,
      { h with position := settled m h.position [q], pen := .down }) := by
  unfold Head.drawTo Motion.andThen
  rw [Head.lower_eq]
  by_cases hs : same m q h.position <;> simp [hs, kept, settled]

theorem Head.travelTo_eq (m : Settings.Machine) (q : Position) (h : Head) :
    h.travelTo m q = (lifting h.pen ++ (kept m h.position [q]).map .travel,
      { h with position := settled m h.position [q], pen := .up }) := by
  unfold Head.travelTo Motion.andThen
  rw [Head.lift_eq]
  by_cases hs : same m q h.position <;> simp [hs, kept, settled]

/-- The pen comes down before the first draw, or at the end where nothing is drawn. -/
theorem Head.drawAll_lower_eq (m : Settings.Machine) (qs : List Position) (h : Head) :
    (h.drawAll m qs).andThen Head.lower = (lowering h.pen ++ (kept m h.position qs).map .draw,
      { h with position := settled m h.position qs, pen := .down }) := by
  induction qs generalizing h with
  | nil => simp [Head.drawAll, Motion.andThen, Head.lower_eq, kept]
  | cons q rest ih =>
    have next : (fun k : Head => (k.drawAll m rest).andThen Head.lower) = fun k =>
        (lowering k.pen ++ (kept m k.position rest).map .draw,
          { k with position := settled m k.position rest, pen := .down }) := funext ih
    rw [Head.drawAll, Motion.andThen_assoc, next, Head.drawTo_eq, kept_cons m h.position q rest,
      settled_cons m h.position q rest]
    simp [Motion.andThen, lowering]

theorem Head.step_moveTo (m : Settings.Machine) (q : Position) (h : Head) :
    h.step m (.moveTo q) = (lifting h.pen ++ (kept m h.position [q]).map .travel,
      ⟨settled m h.position [q], .up, q⟩) := by
  simp [Head.step, Head.travelTo_eq, Motion.andThen]

theorem Head.step_draw (m : Settings.Machine) (c : Curve Float) (h : Head) :
    h.step m (.draw c) =
      (lowering h.pen ++
          (kept m h.position (c.flatten h.position m.curveSteps.value)).map .draw,
        { h with
          position := settled m h.position (c.flatten h.position m.curveSteps.value)
          pen := .down }) := by
  rw [Head.step, Head.drawAll_lower_eq]

/-- Where a contour that closes is drawn back to. -/
def closing (m : Settings.Machine) (h : Head) : List Position :=
  if m.closeContours ∧ h.pen = .down then [h.contourStart] else []

theorem Head.step_closePath (m : Settings.Machine) (h : Head) :
    h.step m .closePath = ((kept m h.position (closing m h)).map .draw ++ lifting h.pen,
      { h with position := settled m h.position (closing m h), pen := .up }) := by
  unfold Head.step closing
  by_cases hc : m.closeContours ∧ h.pen = .down
  · simp only [hc, and_self, if_true, Head.drawTo_eq, Motion.andThen, Head.lift_eq, lowering,
      lifting, List.nil_append]
  · simp only [hc, if_false, Head.lift_eq, kept, settled_nil, List.map_nil, List.nil_append]

/-- Tracing is doing the segments with the pen up, and lifting the pen. -/
theorem trace_eq (m : Settings.Machine) (segments : List (Segment Float)) (h : Head) :
    trace m segments h =
      (((Head.at h.position).steps m segments).1 ++
          lifting ((Head.at h.position).steps m segments).2.pen,
        { ((Head.at h.position).steps m segments).2 with pen := .up }) := by
  unfold trace Motion.andThen
  rw [Head.lift_eq]

end PenPlot.Toolpath
