-- Flattening and placing. A frame keeps shares of a way, so the samples of a curve that is placed
-- on the paper are the samples of the curve, placed; and it keeps points apart, so the same samples
-- are dropped. A curve may be flattened before it is placed or after.
import PenPlot.Geometry.Frame
import PenPlot.Proofs.Geometry.Sampling

namespace PenPlot.Geometry

variable {f : Frame ℚ}

/-! ## Frames -/

/-- A share of the way between two points stays that share of the way. -/
theorem lerp_place (f : Frame ℚ) (a b : Point ℚ) (t : ℚ) :
    lerp (f.place a) (f.place b) t = f.place (lerp a b t) := by
  unfold lerp Frame.place
  refine congrArg₂ Point.mk ?_ ?_ <;> ring

/-- A frame in which a font unit has a length keeps points apart. -/
theorem place_injective (hf : f.scale ≠ 0) : Function.Injective f.place := by
  intro a b h
  obtain ⟨ax, ay⟩ := a
  obtain ⟨bx, byy⟩ := b
  obtain ⟨hx, hy⟩ := Point.mk.inj h
  exact congrArg₂ Point.mk (mul_right_cancel₀ hf (add_left_cancel hx))
    (mul_right_cancel₀ hf (sub_right_injective hy))

/-! ## Curves -/

theorem at_map (f : Frame ℚ) (start : Point ℚ) (c : Curve ℚ) (t : ℚ) :
    (c.map f.place).at (f.place start) t = f.place (c.at start t) := by
  cases c <;> simp only [Curve.map, Curve.at, quadPoint, cubicPoint, lerp_place]

theorem stop_map (f : Frame ℚ) (c : Curve ℚ) : (c.map f.place).stop = f.place c.stop := by
  cases c <;> rfl

theorem samples_map (f : Frame ℚ) (start : Point ℚ) (steps : Nat) (c : Curve ℚ) :
    (c.map f.place).samples (f.place start) steps = (c.samples start steps).map f.place := by
  by_cases hline : ∃ p, c = .line p
  · obtain ⟨p, rfl⟩ := hline
    rfl
  · have hcurve : ∀ p, c ≠ .line p := not_exists.mp hline
    have hmapped : ∀ p, c.map f.place ≠ .line p := by
      cases c with
      | line p => exact absurd rfl (hcurve p)
      | _ => exact fun _ => by simp [Curve.map]
    rw [samples_curve hcurve, samples_curve hmapped, List.map_append, List.map_map,
      List.map_singleton, stop_map]
    simp only [at_map]
    rfl

/-- Points that are kept apart are dropped and kept as they were. -/
theorem dropRepeats_map {β γ : Type} [BEq β] [LawfulBEq β] [BEq γ] [LawfulBEq γ] {g : β → γ}
    (hg : Function.Injective g) (last : β) (bs : List β) :
    dropRepeats (g last) (bs.map g) = (dropRepeats last bs).map g := by
  classical
  have h : ((last :: bs).destutter (· ≠ ·)).map g = ((last :: bs).map g).destutter (· ≠ ·) :=
    List.map_destutter_ne _ hg
  rw [← cons_dropRepeats, List.map_cons, List.map_cons, ← cons_dropRepeats] at h
  exact (List.cons.inj h).2.symm

theorem flatten_map (hf : f.scale ≠ 0) (start : Point ℚ) (steps : Nat) (c : Curve ℚ) :
    (c.map f.place).flatten (f.place start) steps = (c.flatten start steps).map f.place := by
  unfold Curve.flatten
  rw [samples_map, dropRepeats_map (place_injective hf)]

/-! ## The law -/

/-- A curve or a line that is placed on the paper and flattened there gives the points that it gives
when it is flattened in the units of the font, each of them placed. -/
theorem flattening_may_come_before_placing (f : Frame ℚ) (hf : 0 < f.scale) (start : Point ℚ)
    (c : Curve ℚ) (steps : Nat) (hsteps : 1 ≤ steps) :
    ∃ points, (Segment.draw c).flatten? start steps = .ok points ∧
      ((Segment.draw c).map f.place).flatten? (f.place start) steps =
        .ok (points.map f.place) := by
  refine ⟨c.flatten start steps, flatten?_eq hsteps start c, ?_⟩
  rw [← flatten_map hf.ne']
  exact flatten?_eq hsteps _ _

/-- A loop, drawn in twice its size and upside down. -/
theorem a_loop_is_flattened_before_it_is_placed :
    let f : Frame ℚ := ⟨1, 10, 2⟩
    let loop : Segment ℚ := .draw (.cubic ⟨0, 0⟩ ⟨3, 4⟩ ⟨0, 0⟩)
    0 < f.scale ∧ loop.flatten? ⟨0, 0⟩ 3 = .ok [⟨2 / 3, 8 / 9⟩, ⟨4 / 3, 16 / 9⟩, ⟨0, 0⟩] ∧
      (loop.map f.place).flatten? (f.place ⟨0, 0⟩) 3 =
        .ok [⟨7 / 3, 74 / 9⟩, ⟨11 / 3, 58 / 9⟩, ⟨1, 10⟩] := by
  intro f loop
  have hf : 0 < f.scale := by decide
  have hloop : loop.flatten? ⟨0, 0⟩ (3 : Nat) =
      .ok [⟨2 / 3, 8 / 9⟩, ⟨4 / 3, 16 / 9⟩, ⟨0, 0⟩] := by
    decide +kernel
  obtain ⟨points, hpoints, hplaced⟩ :=
    flattening_may_come_before_placing f hf ⟨0, 0⟩ (.cubic ⟨0, 0⟩ ⟨3, 4⟩ ⟨0, 0⟩) 3 (by decide)
  cases hloop.symm.trans hpoints
  refine ⟨hf, hloop, hplaced.trans ?_⟩
  decide +kernel

end PenPlot.Geometry
