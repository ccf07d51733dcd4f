-- Places that a machine cannot tell apart, and finite positions. A place that cannot be
-- told from a second one, and that one from a third, cannot be told from the third, so
-- that the two places where a point may be dropped, the flattening and the head, drop
-- what the head alone would drop. A finite head drops nothing that is not finite.
import PenPlot.Proofs.Number.Rounding
import PenPlot.Proofs.Toolpath.Motion

namespace PenPlot.Geometry

/-- Whether both coordinates of a point are finite. -/
def Point.isFinite (p : Point Float) : Bool := p.x.isFinite && p.y.isFinite

theorem Segment.isFinite_iff (s : Segment Float) :
    s.isFinite = true ↔ ∀ p ∈ s.points, p.isFinite = true := by
  unfold Segment.isFinite Segment.coordinates Point.isFinite
  simp [List.all_flatMap, List.all_eq_true]

end PenPlot.Geometry

namespace PenPlot.Toolpath

open PenPlot.Geometry

variable {m : Settings.Machine} {p q r : Position}

/-! ## The same place -/

/-- A coordinate as a machine tells it from others. -/
def rounded (m : Settings.Machine) (x : Float) : Float :=
  Number.roundTo m.coordinatePrecision.value x

theorem same_iff : same m p q = true ↔
    (rounded m p.x == rounded m q.x) = true ∧ (rounded m p.y == rounded m q.y) = true := by
  unfold same rounded
  rw [Bool.and_eq_true]

theorem isFinite_point_iff : p.isFinite = true ↔ p.x.isFinite = true ∧ p.y.isFinite = true := by
  unfold Point.isFinite
  rw [Bool.and_eq_true]

theorem same_trans (hpq : same m p q = true) (hqr : same m q r = true) : same m p r = true := by
  obtain ⟨hx, hy⟩ := same_iff.mp hpq
  obtain ⟨hx', hy'⟩ := same_iff.mp hqr
  exact same_iff.mpr ⟨BEq.trans hx hx', BEq.trans hy hy'⟩

/-- Equal positions are the same place for every machine. -/
theorem same_of_beq (h : (p == q) = true) : same m p q = true := by
  obtain ⟨hx, hy⟩ := Bool.and_eq_true_iff.mp h
  exact same_iff.mpr ⟨Number.roundTo_congr hx _, Number.roundTo_congr hy _⟩

/-- A finite position equals nothing that is not finite. -/
theorem isFinite_of_beq (hq : q.isFinite = true) (h : (p == q) = true) : p.isFinite = true := by
  obtain ⟨hx, hy⟩ := isFinite_point_iff.mp hq
  obtain ⟨hbx, hby⟩ := Bool.and_eq_true_iff.mp h
  exact isFinite_point_iff.mpr ⟨Number.isFinite_of_beq hx hbx, Number.isFinite_of_beq hy hby⟩

/-- A machine tells a finite position from one that is not. -/
theorem isFinite_of_same (hq : q.isFinite = true) (h : same m p q = true) : p.isFinite = true := by
  obtain ⟨hx, hy⟩ := isFinite_point_iff.mp hq
  obtain ⟨hsx, hsy⟩ := same_iff.mp h
  exact isFinite_point_iff.mpr
    ⟨Number.isFinite_of_roundTo_beq hx hsx, Number.isFinite_of_roundTo_beq hy hsy⟩

/-! ## What is dropped -/

theorem mem_of_mem_kept {qs : List Position} (h : r ∈ kept m p qs) : r ∈ qs := by
  induction qs generalizing p with
  | nil => exact h
  | cons q rest ih =>
    unfold kept at h
    by_cases hs : same m q p = true
    · rw [if_pos hs] at h
      exact List.mem_cons_of_mem q (ih h)
    · rw [if_neg hs] at h
      rcases List.mem_cons.mp h with heq | hrest
      · exact heq ▸ List.mem_cons_self
      · exact List.mem_cons_of_mem q (ih hrest)

theorem settled_finite {qs : List Position} (hp : p.isFinite = true)
    (hqs : ∀ q ∈ qs, q.isFinite = true) : (settled m p qs).isFinite = true := by
  unfold settled
  rw [List.getLastD_eq_getLast?]
  cases hl : (kept m p qs).getLast? with
  | none => exact hp
  | some q => exact hqs q (mem_of_mem_kept (List.mem_of_getLast? hl))

/-- Dropping equal points first changes nothing: the head drops them all the same. -/
theorem kept_dropRepeats {last : Position} (qs : List Position)
    (hlast : ∀ r, (r == last) = true → same m r p = true) :
    kept m p (dropRepeats last qs) = kept m p qs := by
  induction qs generalizing last p with
  | nil => rfl
  | cons q rest ih =>
    by_cases heq : (q == last) = true
    · rw [dropRepeats, if_pos heq, kept, if_pos (hlast q heq)]
      exact ih hlast
    -- The flattening keeps `q`, so what equals `q` has to be where the head is afterwards.
    · rw [dropRepeats, if_neg heq, kept, kept]
      by_cases hsame : same m q p = true
      · rw [if_pos hsame, if_pos hsame]
        exact ih fun r hr => same_trans (same_of_beq hr) hsame
      · rw [if_neg hsame, if_neg hsame, ih fun r hr => same_of_beq hr]

/-- If what the head goes to is finite, so is all that it was sent to. -/
theorem finite_of_kept {last : Position} (qs : List Position) (hp : p.isFinite = true)
    (hlast : last.isFinite = true)
    (h : ∀ q ∈ kept m p (dropRepeats last qs), q.isFinite = true) :
    ∀ q ∈ qs, q.isFinite = true := by
  -- What stands before a sample that is not finite is, so neither place drops the sample.
  induction qs generalizing last p with
  | nil =>
    intro q hq
    cases hq
  | cons q rest ih =>
    intro r hr
    by_cases heq : (q == last) = true
    · rw [dropRepeats, if_pos heq] at h
      rcases List.mem_cons.mp hr with rfl | hrest
      · exact isFinite_of_beq hlast heq
      · exact ih hp hlast h r hrest
    · rw [dropRepeats, if_neg heq, kept] at h
      by_cases hsame : same m q p = true
      · rw [if_pos hsame] at h
        have hq := isFinite_of_same hp hsame
        rcases List.mem_cons.mp hr with rfl | hrest
        · exact hq
        · exact ih hp hq h r hrest
      · rw [if_neg hsame] at h
        have hq := h q List.mem_cons_self
        rcases List.mem_cons.mp hr with rfl | hrest
        · exact hq
        · exact ih hq hq (fun s hs => h s (List.mem_cons_of_mem q hs)) r hrest

/-! ## Finite glyphs -/

/-- The samples of a segment from a position: those of its curve, if it draws. -/
def samplesFrom (m : Settings.Machine) (p : Position) : Segment Float → List Position
  | .draw c => c.samples p m.curveSteps.value
  | _ => []

/-- Whether a segment has finite coordinates, and finite samples from a position. -/
def finiteFrom (m : Settings.Machine) (p : Position) (s : Segment Float) : Bool :=
  s.isFinite && (samplesFrom m p s).all Point.isFinite

/-- Whether segments are finite, each from where the head is when it comes to it. -/
def Head.finiteSteps (m : Settings.Machine) : List (Segment Float) → Head → Bool
  | [], _ => true
  | s :: rest, h => finiteFrom m h.position s && Head.finiteSteps m rest (h.step m s).2

/-- Whether glyphs are finite, each from where the head is when it comes to it. -/
def finiteGlyphs (m : Settings.Machine) : List (List (Segment Float)) → Head → Bool
  | [], _ => true
  | glyph :: rest, h =>
    (Head.at h.position).finiteSteps m glyph && finiteGlyphs m rest (trace m glyph h).2

/-- A head whose position and contour start are finite. -/
structure Head.Finite (h : Head) : Prop where
  position : h.position.isFinite = true
  contourStart : h.contourStart.isFinite = true

theorem Head.Finite.at (hp : p.isFinite = true) : (Head.at p).Finite := ⟨hp, hp⟩

theorem finite_moveTo (h : finiteFrom m p (.moveTo q) = true) : q.isFinite = true := by
  unfold finiteFrom at h
  exact (Segment.isFinite_iff _).mp (Bool.and_eq_true_iff.mp h).1 q List.mem_cons_self

theorem finite_samples {c : Curve Float} (h : finiteFrom m p (.draw c) = true) :
    ∀ q ∈ c.samples p m.curveSteps.value, q.isFinite = true := by
  unfold finiteFrom at h
  exact List.all_eq_true.mp (Bool.and_eq_true_iff.mp h).2

theorem kept_flatten (m : Settings.Machine) (p : Position) (c : Curve Float) :
    kept m p (c.flatten p m.curveSteps.value) = kept m p (c.samples p m.curveSteps.value) :=
  kept_dropRepeats _ fun _ hr => same_of_beq hr

theorem settled_flatten (m : Settings.Machine) (p : Position) (c : Curve Float) :
    settled m p (c.flatten p m.curveSteps.value) =
      settled m p (c.samples p m.curveSteps.value) := by
  unfold settled
  rw [kept_flatten]

theorem finite_closing {h : Head} (hh : h.Finite) : ∀ q ∈ closing m h, q.isFinite = true := by
  intro q hq
  unfold closing at hq
  by_cases hc : m.closeContours = true ∧ h.pen = .down
  · rw [if_pos hc] at hq
    exact List.mem_singleton.mp hq ▸ hh.contourStart
  · rw [if_neg hc] at hq
    cases hq

/-- A finite segment leaves a finite head finite. -/
theorem Head.Finite.step {h : Head} (hh : h.Finite) {s : Segment Float}
    (hs : finiteFrom m h.position s = true) : (h.step m s).2.Finite := by
  rcases s with q | c | _
  · have hq := finite_moveTo hs
    rw [Head.step_moveTo]
    exact ⟨settled_finite hh.position fun r hr => List.mem_singleton.mp hr ▸ hq, hq⟩
  · rw [Head.step_draw]
    refine ⟨?_, hh.contourStart⟩
    rw [settled_flatten]
    exact settled_finite hh.position (finite_samples hs)
  · rw [Head.step_closePath]
    exact ⟨settled_finite hh.position (finite_closing hh), hh.contourStart⟩

theorem Head.Finite.steps {segments : List (Segment Float)} {h : Head} (hh : h.Finite)
    (hs : h.finiteSteps m segments = true) : (h.steps m segments).2.Finite := by
  induction segments generalizing h with
  | nil => exact hh
  | cons s rest ih =>
    rw [Head.finiteSteps, Bool.and_eq_true] at hs
    exact ih (hh.step hs.1) hs.2

/-- A finite glyph leaves the head at a finite position. -/
theorem trace_finite {glyph : List (Segment Float)} {h : Head} (hp : h.position.isFinite = true)
    (hs : (Head.at h.position).finiteSteps m glyph = true) :
    (trace m glyph h).2.position.isFinite = true := by
  rw [trace_eq]
  exact ((Head.Finite.at hp).steps hs).position

theorem traceAll_finite {glyphs : List (List (Segment Float))} {h : Head}
    (hp : h.position.isFinite = true) (hs : finiteGlyphs m glyphs h = true) :
    (traceAll m glyphs h).2.position.isFinite = true := by
  induction glyphs generalizing h with
  | nil => exact hp
  | cons glyph rest ih =>
    rw [finiteGlyphs, Bool.and_eq_true] at hs
    exact ih (trace_finite hp hs.1) hs.2

end PenPlot.Toolpath
