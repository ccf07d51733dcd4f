-- Curves over the rationals. Repeated interpolation gives the blend of the Bernstein polynomials,
-- so flattening samples the curve itself, at equal steps, and leaves out a sample that repeats the
-- point before it. An interpolated point lies between the points it comes from, so no sample leaves
-- the box of the curve.
import Mathlib.Algebra.BigOperators.Fin
import Mathlib.Algebra.Order.Ring.Rat
import Mathlib.Data.List.Destutter
import Mathlib.RingTheory.Polynomial.Bernstein
import Mathlib.Tactic.FieldSimp
import Mathlib.Tactic.Linarith
import Mathlib.Tactic.Positivity
import PenPlot.Geometry.Flatten

namespace PenPlot.Geometry

/-! ## Repeats -/

section Repeats

variable {β : Type} [BEq β] [LawfulBEq β] {last : β} {bs : List β}

/-- Dropping repeats is what the library calls destuttering, with `last` put in front. -/
theorem cons_dropRepeats [DecidableEq β] (last : β) (bs : List β) :
    last :: dropRepeats last bs = (last :: bs).destutter (· ≠ ·) := by
  rw [List.destutter_cons']
  induction bs generalizing last with
  | nil => rfl
  | cons b rest ih =>
    rw [dropRepeats, List.destutter'_cons]
    by_cases h : b = last
    · rw [if_pos (beq_iff_eq.mpr h), if_neg (not_not.mpr h.symm), ih]
    · rw [if_neg (mt beq_iff_eq.mp h), if_pos (Ne.symm h), ih]

theorem dropRepeats_eq_nil_iff : dropRepeats last bs = [] ↔ ∀ b ∈ bs, b = last := by
  induction bs generalizing last with
  | nil => simp [dropRepeats]
  | cons b rest ih =>
    rw [dropRepeats, List.forall_mem_cons]
    by_cases h : b = last
    · rw [if_pos (beq_iff_eq.mpr h), ih]
      exact (and_iff_right h).symm
    · rw [if_neg (mt beq_iff_eq.mp h)]
      exact iff_of_false (List.cons_ne_nil _ _) fun hall => h hall.1

/-- The end is kept, or was there before. -/
theorem getLastD_dropRepeats : (dropRepeats last bs).getLastD last = bs.getLastD last := by
  induction bs generalizing last with
  | nil => rfl
  | cons b rest ih =>
    rw [dropRepeats, List.getLastD_cons]
    by_cases h : b = last
    · rw [if_pos (beq_iff_eq.mpr h), ih, h]
    · rw [if_neg (mt beq_iff_eq.mp h), List.getLastD_cons, ih]

end Repeats

instance {α : Type} [BEq α] [LawfulBEq α] : LawfulBEq (Point α) where
  rfl {p} := by
    change (p.x == p.x && p.y == p.y) = true
    rw [beq_self_eq_true, beq_self_eq_true, Bool.and_true]
  eq_of_beq {p q} h := by
    obtain ⟨hx, hy⟩ := Bool.and_eq_true_iff.mp h
    obtain ⟨x, y⟩ := p
    obtain ⟨x', y'⟩ := q
    exact congrArg₂ Point.mk (eq_of_beq hx) (eq_of_beq hy)

/-! ## Blends -/

/-- The blend of the points of a curve at `t`: each of them weighed by the value that its Bernstein
polynomial has there. -/
noncomputable def Curve.blend (start : Point ℚ) (c : Curve ℚ) (t : ℚ) : Point ℚ :=
  let weighed (coordinate : Point ℚ → ℚ) : List ℚ := (start :: c.points).mapIdx fun i p =>
    (bernsteinPolynomial ℚ c.points.length i).eval t * coordinate p
  ⟨(weighed Point.x).sum, (weighed Point.y).sum⟩

theorem eval_bernstein (n i : Nat) (t : ℚ) :
    (bernsteinPolynomial ℚ n i).eval t = n.choose i * t ^ i * (1 - t) ^ (n - i) := by
  simp [bernsteinPolynomial]

/-- Repeated interpolation is the blend of the points. -/
theorem Curve.at_eq_blend (start : Point ℚ) (c : Curve ℚ) (t : ℚ) :
    c.at start t = c.blend start t := by
  have htwo : Nat.choose 2 1 = 2 := rfl
  have hthree : Nat.choose 3 1 = 3 ∧ Nat.choose 3 2 = 3 := ⟨rfl, rfl⟩
  unfold Curve.blend
  cases c with
  | line p =>
    simp only [Curve.at, lerp, Curve.points, List.mapIdx_cons, List.mapIdx_nil, eval_bernstein,
      List.length_cons, List.length_nil, List.sum_cons, List.sum_nil, zero_add,
      Nat.choose_zero_right, Nat.choose_self]
    refine congrArg₂ Point.mk ?_ ?_ <;> ring
  | quad c p =>
    simp only [Curve.at, quadPoint, lerp, Curve.points, List.mapIdx_cons, List.mapIdx_nil,
      eval_bernstein, List.length_cons, List.length_nil, List.sum_cons, List.sum_nil, zero_add,
      Nat.reduceAdd, Nat.choose_zero_right, Nat.choose_self, htwo]
    refine congrArg₂ Point.mk ?_ ?_ <;> ring
  | cubic c d p =>
    simp only [Curve.at, cubicPoint, lerp, Curve.points, List.mapIdx_cons, List.mapIdx_nil,
      eval_bernstein, List.length_cons, List.length_nil, List.sum_cons, List.sum_nil, zero_add,
      Nat.reduceAdd, Nat.choose_zero_right, Nat.choose_self, hthree]
    refine congrArg₂ Point.mk ?_ ?_ <;> ring

theorem lerp_zero (a b : Point ℚ) : lerp a b 0 = a := by
  simp [lerp]

theorem lerp_one (a b : Point ℚ) : lerp a b 1 = b := by
  simp [lerp]

theorem Curve.at_zero (start : Point ℚ) (c : Curve ℚ) : c.at start 0 = start := by
  cases c <;> simp only [Curve.at, quadPoint, cubicPoint, lerp_zero]

theorem Curve.at_one (start : Point ℚ) (c : Curve ℚ) : c.at start 1 = c.stop := by
  cases c <;> simp only [Curve.at, quadPoint, cubicPoint, lerp_one, Curve.stop]

/-! ## Boxes -/

/-- Whether a point lies in the box between two corners. -/
def Point.Within (p low high : Point ℚ) : Prop :=
  (low.x ≤ p.x ∧ p.x ≤ high.x) ∧ low.y ≤ p.y ∧ p.y ≤ high.y

/-- Whether a point lies in the box of points, the smallest of all boxes that hold them. -/
def InBox (ps : List (Point ℚ)) (p : Point ℚ) : Prop :=
  ∀ low high : Point ℚ, (∀ q ∈ ps, q.Within low high) → p.Within low high

/-- A share of the way between two numbers lies between what lies around them. -/
theorem share_between {low high a b t : ℚ} (ht : 0 ≤ t ∧ t ≤ 1) (ha : low ≤ a ∧ a ≤ high)
    (hb : low ≤ b ∧ b ≤ high) : low ≤ a + (b - a) * t ∧ a + (b - a) * t ≤ high := by
  have hshare : a + (b - a) * t = (1 - t) * a + t * b := by ring
  have hrest : 0 ≤ 1 - t := sub_nonneg.mpr ht.2
  rw [hshare]
  constructor
  · calc low = (1 - t) * low + t * low := by ring
      _ ≤ (1 - t) * a + t * b :=
        add_le_add (mul_le_mul_of_nonneg_left ha.1 hrest) (mul_le_mul_of_nonneg_left hb.1 ht.1)
  · calc (1 - t) * a + t * b ≤ (1 - t) * high + t * high :=
        add_le_add (mul_le_mul_of_nonneg_left ha.2 hrest) (mul_le_mul_of_nonneg_left hb.2 ht.1)
      _ = high := by ring

theorem Point.Within.lerp {low high a b : Point ℚ} {t : ℚ} (ha : a.Within low high)
    (hb : b.Within low high) (ht : 0 ≤ t ∧ t ≤ 1) : (lerp a b t).Within low high :=
  ⟨share_between ht ha.1 hb.1, share_between ht ha.2 hb.2⟩

/-- A curve stays in the box of its points. -/
theorem Curve.at_inBox (start : Point ℚ) (c : Curve ℚ) {t : ℚ} (ht : 0 ≤ t ∧ t ≤ 1) :
    InBox (start :: c.points) (c.at start t) := by
  intro low high h
  cases c with
  | line p =>
    simp only [Curve.points, List.forall_mem_cons] at h
    obtain ⟨hstart, hp, -⟩ := h
    exact hstart.lerp hp ht
  | quad c p =>
    simp only [Curve.points, List.forall_mem_cons] at h
    obtain ⟨hstart, hc, hp, -⟩ := h
    exact (hstart.lerp hc ht).lerp (hc.lerp hp ht) ht
  | cubic c d p =>
    simp only [Curve.points, List.forall_mem_cons] at h
    obtain ⟨hstart, hc, hd, hp, -⟩ := h
    have hcd := hc.lerp hd ht
    exact ((hstart.lerp hc ht).lerp hcd ht).lerp (hcd.lerp (hd.lerp hp ht) ht) ht

/-! ## Samples -/

/-- The points of a curve at `1 / steps`, `2 / steps` and so on up to its end. -/
noncomputable def Curve.evenly (start : Point ℚ) (steps : Nat) (c : Curve ℚ) : List (Point ℚ) :=
  (List.range steps).map fun i => c.blend start ((i + 1 : Nat) / steps)

variable {start : Point ℚ} {c : Curve ℚ} {steps : Nat}

/-- The last of the points is the end of the curve. -/
theorem evenly_succ (n : Nat) : c.evenly start (n + 1) =
    ((List.range n).map fun i => c.at start ((i + 1 : Nat) / (n + 1 : Nat))) ++ [c.stop] := by
  have hone : ((n + 1 : Nat) : ℚ) / (n + 1 : Nat) = 1 :=
    div_self (Nat.cast_ne_zero.mpr n.succ_ne_zero)
  unfold Curve.evenly
  simp only [← Curve.at_eq_blend]
  rw [List.range_succ, List.map_append, List.map_singleton, hone, Curve.at_one]

theorem samples_curve (hcurve : ∀ p, c ≠ .line p) (steps : Nat) : c.samples start steps =
    ((List.range steps).map fun (i : Nat) => c.at start ((i : ℚ) / steps)) ++ [c.stop] := by
  cases c with
  | line p => exact absurd rfl (hcurve p)
  | _ => rfl

/-- The samples of a curve start where the curve does, and go on evenly. -/
theorem samples_succ (hcurve : ∀ p, c ≠ .line p) (n : Nat) :
    c.samples start (n + 1) = start :: c.evenly start (n + 1) := by
  rw [samples_curve hcurve, evenly_succ, List.range_succ_eq_map, List.map_cons, List.map_map,
    Nat.cast_zero, zero_div, Curve.at_zero]
  rfl

theorem flatten_eq (hcurve : ∀ p, c ≠ .line p) (n : Nat) :
    c.flatten start (n + 1) = dropRepeats start (c.evenly start (n + 1)) := by
  unfold Curve.flatten
  rw [samples_succ hcurve, dropRepeats, if_pos (beq_self_eq_true start)]

theorem flatten?_eq {steps : Nat} (hsteps : 1 ≤ steps) (start : Point ℚ) (c : Curve ℚ) :
    (Segment.draw c).flatten? start steps = .ok (c.flatten start steps) := by
  unfold Segment.flatten?
  rw [if_neg (by omega)]
  rfl

theorem evenly_inBox : ∀ p ∈ c.evenly start steps, InBox (start :: c.points) p := by
  intro p hp
  obtain ⟨i, hi, rfl⟩ := List.mem_map.mp hp
  have hlt : i + 1 ≤ steps := List.mem_range.mp hi
  have hpos : (0 : ℚ) < steps := Nat.cast_pos.mpr (by omega)
  have hle : ((i + 1 : Nat) : ℚ) ≤ steps := Nat.cast_le.mpr hlt
  rw [← Curve.at_eq_blend]
  exact c.at_inBox start ⟨by positivity, (div_le_one hpos).mpr hle⟩

/-! ## The law -/

/-- A curve that is not a line is flattened to the values of its Bernstein blend at equal steps, a
point that repeats the one before it left out, where the start stands before all. So there is at
most one point for each step, no two in a row are equal, and the last one is the end of the curve.
There is none exactly where the curve does not leave its start at any step, and then it ends there.
And all points lie in the box of the start and the points of the curve. -/
theorem a_curve_is_sampled_evenly (start : Point ℚ) (c : Curve ℚ) (hcurve : ∀ p, c ≠ .line p)
    (steps : Nat) (hsteps : 1 ≤ steps) :
    ∃ points, (Segment.draw c).flatten? start steps = .ok points ∧
      start :: points = (start :: c.evenly start steps).destutter (· ≠ ·) ∧
      points.length ≤ steps ∧
      (start :: points).IsChain (· ≠ ·) ∧
      (points ≠ [] → points.getLast? = some c.stop) ∧
      (points = [] ↔ ∀ p ∈ c.evenly start steps, p = start) ∧
      (points = [] → c.stop = start) ∧
      ∀ p ∈ points, InBox (start :: c.points) p := by
  obtain ⟨n, rfl⟩ := Nat.exists_eq_add_of_le' hsteps
  have hlast : (dropRepeats start (c.evenly start (n + 1))).getLastD start = c.stop := by
    rw [getLastD_dropRepeats, evenly_succ, List.getLastD_concat]
  have hsublist := dropRepeats_sublist start (c.evenly start (n + 1))
  refine ⟨dropRepeats start (c.evenly start (n + 1)), ?_, cons_dropRepeats _ _, ?_, ?_, ?_,
    dropRepeats_eq_nil_iff, ?_, fun p hp => evenly_inBox p (hsublist.subset hp)⟩
  · rw [flatten?_eq hsteps, flatten_eq hcurve]
  · refine hsublist.length_le.trans ?_
    unfold Curve.evenly
    rw [List.length_map, List.length_range]
  · rw [cons_dropRepeats]
    exact List.isChain_destutter _ _
  · intro hne
    rw [List.getLast?_eq_getLast_of_ne_nil hne, ← hlast, List.getLastD_eq_getLast?,
      List.getLast?_eq_getLast_of_ne_nil hne, Option.getD_some]
  · intro hnil
    rw [hnil] at hlast
    exact hlast.symm

/-- A curve that comes back to its start is drawn all the same. -/
theorem a_loop_is_sampled_evenly :
    let loop : Curve ℚ := .quad ⟨2, 4⟩ ⟨0, 0⟩
    (Segment.draw loop).flatten? ⟨0, 0⟩ 2 = .ok [⟨1, 2⟩, ⟨0, 0⟩] ∧
      [⟨0, 0⟩, ⟨1, 2⟩, ⟨0, 0⟩] = (⟨0, 0⟩ :: loop.evenly ⟨0, 0⟩ 2).destutter (· ≠ ·) ∧
      InBox [⟨0, 0⟩, ⟨2, 4⟩, ⟨0, 0⟩] ⟨1, 2⟩ := by
  intro loop
  have hloop : (Segment.draw loop).flatten? ⟨0, 0⟩ (2 : Nat) = .ok [⟨1, 2⟩, ⟨0, 0⟩] := by
    decide +kernel
  obtain ⟨points, hpoints, heven, -, -, -, -, -, hbox⟩ :=
    a_curve_is_sampled_evenly ⟨0, 0⟩ loop (by simp [loop]) 2 (by decide)
  cases hloop.symm.trans hpoints
  exact ⟨hloop, heven, hbox _ (by simp)⟩

end PenPlot.Geometry
