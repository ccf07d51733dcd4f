-- Where the commands send the pen. No command sends it to where it already is, and
-- all commands send it to finite positions exactly when all samples are finite.
import Mathlib.Data.List.Chain
import PenPlot.Proofs.Toolpath.Finite

namespace PenPlot.Toolpath

open PenPlot.Geometry

/-- Where a command sends the pen, if anywhere. -/
def Command.target? : Command → Option Position
  | .travel q => some q
  | .draw q => some q
  | _ => none

/-- Where commands send the pen, in order. -/
def targets (commands : List Command) : List Position := commands.filterMap Command.target?

theorem targets_append (a b : List Command) : targets (a ++ b) = targets a ++ targets b :=
  List.filterMap_append

theorem targets_lifting (pen : Pen) : targets (lifting pen) = [] := by
  cases pen <;> rfl

theorem targets_lowering (pen : Pen) : targets (lowering pen) = [] := by
  cases pen <;> rfl

theorem targets_travels (qs : List Position) : targets (qs.map .travel) = qs := by
  induction qs with
  | nil => rfl
  | cons q rest ih => exact congrArg (q :: ·) ih

theorem targets_draws (qs : List Position) : targets (qs.map .draw) = qs := by
  induction qs with
  | nil => rfl
  | cons q rest ih => exact congrArg (q :: ·) ih

variable {m : Settings.Machine}

/-! ## The targets of each motion -/

theorem targets_moveTo (q : Position) (h : Head) :
    targets (h.step m (.moveTo q)).1 = kept m h.position [q] := by
  rw [Head.step_moveTo, targets_append, targets_lifting, targets_travels, List.nil_append]

theorem targets_draw (c : Curve Float) (h : Head) :
    targets (h.step m (.draw c)).1 =
      kept m h.position (c.flatten h.position m.curveSteps.value) := by
  rw [Head.step_draw, targets_append, targets_lowering, targets_draws, List.nil_append]

theorem targets_closePath (h : Head) :
    targets (h.step m .closePath).1 = kept m h.position (closing m h) := by
  rw [Head.step_closePath, targets_append, targets_lifting, targets_draws, List.append_nil]

theorem targets_trace (glyph : List (Segment Float)) (h : Head) :
    targets (trace m glyph h).1 = targets ((Head.at h.position).steps m glyph).1 := by
  rw [trace_eq, targets_append, targets_lifting, List.append_nil]

/-! ## Nothing goes nowhere -/

/-- A motion that only sends the head from a position to one position after the other. -/
def Motion.Goes (m : Settings.Machine) (p : Position) (r : Motion) : Prop :=
  ∃ qs, targets r.1 = kept m p qs ∧ r.2.position = settled m p qs

theorem Motion.Goes.andThen {p : Position} {a : Motion} {next : Head → Motion}
    (ha : a.Goes m p) (hn : (next a.2).Goes m a.2.position) : (a.andThen next).Goes m p := by
  obtain ⟨qs, htargets, hposition⟩ := ha
  obtain ⟨rs, htargets', hposition'⟩ := hn
  refine ⟨qs ++ rs, ?_, ?_⟩
  · unfold Motion.andThen
    rw [targets_append, htargets, htargets', kept_append, ← hposition]
  · unfold Motion.andThen
    rw [hposition', settled_append, ← hposition]

theorem step_goes (s : Segment Float) (h : Head) : (h.step m s).Goes m h.position := by
  rcases s with q | c | _
  · exact ⟨[q], targets_moveTo q h, by rw [Head.step_moveTo]⟩
  · exact ⟨_, targets_draw c h, by rw [Head.step_draw]⟩
  · exact ⟨_, targets_closePath h, by rw [Head.step_closePath]⟩

theorem steps_goes (segments : List (Segment Float)) (h : Head) :
    (h.steps m segments).Goes m h.position := by
  induction segments generalizing h with
  | nil => exact ⟨[], rfl, rfl⟩
  | cons s rest ih => exact (step_goes s h).andThen (ih _)

theorem trace_goes (glyph : List (Segment Float)) (h : Head) :
    (trace m glyph h).Goes m h.position := by
  obtain ⟨qs, htargets, hposition⟩ := steps_goes (m := m) glyph (Head.at h.position)
  refine ⟨qs, ?_, ?_⟩
  · rw [targets_trace]
    exact htargets
  · rw [trace_eq]
    exact hposition

theorem traceAll_goes (glyphs : List (List (Segment Float))) (h : Head) :
    (traceAll m glyphs h).Goes m h.position := by
  induction glyphs generalizing h with
  | nil => exact ⟨[], rfl, rfl⟩
  | cons glyph rest ih => exact (trace_goes glyph h).andThen (ih _)

/-- What a head goes to is never where it is. -/
theorem isChain_kept (p : Position) (qs : List Position) :
    (p :: kept m p qs).IsChain fun a b => same m b a = false := by
  induction qs generalizing p with
  | nil => exact List.isChain_singleton p
  | cons q rest ih =>
    rw [kept]
    by_cases hs : same m q p = true
    · rw [if_pos hs]
      exact ih p
    · rw [if_neg hs]
      exact List.isChain_cons_cons.mpr ⟨Bool.eq_false_iff.mpr hs, ih q⟩

/-- No command sends the pen to where it is, not even from one glyph to the next. -/
theorem isChain_targets (glyphs : List (List (Segment Float))) (h : Head) :
    (h.position :: targets (traceAll m glyphs h).1).IsChain fun a b => same m b a = false := by
  obtain ⟨qs, htargets, -⟩ := traceAll_goes (m := m) glyphs h
  rw [htargets]
  exact isChain_kept h.position qs

/-! ## Finite targets -/

theorem finite_targets_step {s : Segment Float} {h : Head} (hh : h.Finite)
    (hs : s.isFinite = true) :
    (∀ q ∈ targets (h.step m s).1, q.isFinite = true) ↔ finiteFrom m h.position s = true := by
  unfold finiteFrom
  rw [hs, Bool.true_and]
  rcases s with r | c | _
  · have hr := (Segment.isFinite_iff _).mp hs r List.mem_cons_self
    rw [targets_moveTo]
    exact ⟨fun _ => rfl, fun _ q hq => List.mem_singleton.mp (mem_of_mem_kept hq) ▸ hr⟩
  · rw [targets_draw, List.all_eq_true]
    constructor
    · exact finite_of_kept _ hh.position hh.position
    · intro hsamples q hq
      exact hsamples q ((dropRepeats_sublist _ _).subset (mem_of_mem_kept hq))
  · rw [targets_closePath]
    exact ⟨fun _ => rfl, fun _ q hq => finite_closing hh q (mem_of_mem_kept hq)⟩

theorem finite_targets_steps {segments : List (Segment Float)} {h : Head} (hh : h.Finite)
    (hs : ∀ s ∈ segments, s.isFinite = true) :
    (∀ q ∈ targets (h.steps m segments).1, q.isFinite = true) ↔
      h.finiteSteps m segments = true := by
  induction segments generalizing h with
  | nil => exact ⟨fun _ => rfl, fun _ q hq => by cases hq⟩
  | cons s rest ih =>
    have hstep := finite_targets_step (m := m) hh (hs s List.mem_cons_self)
    have hrest := fun t ht => hs t (List.mem_cons_of_mem s ht)
    rw [Head.steps, Motion.andThen, targets_append, Head.finiteSteps, Bool.and_eq_true,
      List.forall_mem_append, hstep]
    constructor
    · rintro ⟨hfirst, hothers⟩
      exact ⟨hfirst, (ih (hh.step hfirst) hrest).mp hothers⟩
    · rintro ⟨hfirst, hothers⟩
      exact ⟨hfirst, (ih (hh.step hfirst) hrest).mpr hothers⟩

/-- Where all coordinates are finite, all targets are if and only if all samples are. -/
theorem finite_targets {glyphs : List (List (Segment Float))} {h : Head}
    (hp : h.position.isFinite = true) (hs : ∀ glyph ∈ glyphs, ∀ s ∈ glyph, s.isFinite = true) :
    (∀ q ∈ targets (traceAll m glyphs h).1, q.isFinite = true) ↔
      finiteGlyphs m glyphs h = true := by
  induction glyphs generalizing h with
  | nil => exact ⟨fun _ => rfl, fun _ q hq => by cases hq⟩
  | cons glyph rest ih =>
    have hfirst := finite_targets_steps (m := m) (Head.Finite.at hp) (hs glyph List.mem_cons_self)
    have hrest := fun t ht => hs t (List.mem_cons_of_mem glyph ht)
    rw [traceAll, Motion.andThen, targets_append, targets_trace, finiteGlyphs, Bool.and_eq_true,
      List.forall_mem_append, hfirst]
    constructor
    · rintro ⟨hglyph, hothers⟩
      exact ⟨hglyph, (ih (trace_finite hp hglyph) hrest).mp hothers⟩
    · rintro ⟨hglyph, hothers⟩
      exact ⟨hglyph, (ih (trace_finite hp hglyph) hrest).mpr hothers⟩

end PenPlot.Toolpath
