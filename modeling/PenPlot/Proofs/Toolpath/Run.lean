-- The runs of a glyph: its longest rows of curves. A run ends where the glyph does
-- anything else than draw, or where it ends.
import Mathlib.Data.List.Basic
import PenPlot.Geometry.Segment

namespace PenPlot.Toolpath

open PenPlot.Geometry

/-! ## The runs of a glyph -/

/-- A run of curves in a glyph: what comes before it, its curves, and what comes after. -/
structure Run where
  before : List (Segment Float)
  curves : List (Curve Float)
  after : List (Segment Float)
  deriving DecidableEq, Repr

/-- Whether a segment draws. -/
def draws : Segment Float → Bool
  | .draw _ => true
  | _ => false

/-- The run that ends here, if one has begun. -/
def ended (before : List (Segment Float)) (curves : List (Curve Float))
    (after : List (Segment Float)) : List Run :=
  if curves = [] then [] else [⟨before, curves, after⟩]

/-- The runs in the rest of a glyph, where `curves` are those of the run that has begun. -/
def runsFrom (before : List (Segment Float)) (curves : List (Curve Float)) :
    List (Segment Float) → List Run
  | [] => ended before curves []
  | .draw c :: rest => runsFrom before (curves ++ [c]) rest
  | s :: rest =>
    ended before curves (s :: rest) ++ runsFrom (before ++ curves.map .draw ++ [s]) [] rest

/-- The runs of a glyph in order. -/
def runs (glyph : List (Segment Float)) : List Run := runsFrom [] [] glyph

/-- A longest run of curves in a glyph: no curve stands right before or right after it. -/
structure Run.Longest (glyph : List (Segment Float)) (r : Run) : Prop where
  stands : glyph = r.before ++ r.curves.map .draw ++ r.after
  notEmpty : r.curves ≠ []
  begins : ∀ s ∈ r.before.getLast?, draws s = false
  ends : ∀ s ∈ r.after.head?, draws s = false

theorem takeWhile_draws (curves : List (Curve Float)) {after : List (Segment Float)}
    (h : ∀ s ∈ after.head?, draws s = false) :
    (curves.map Segment.draw ++ after).takeWhile draws = curves.map .draw := by
  induction curves with
  | nil =>
    cases after with
    | nil => rfl
    | cons s rest => simp [h s rfl]
  | cons c rest ih =>
    rw [List.map_cons, List.cons_append, List.takeWhile_cons_of_pos rfl, ih]

/-- Where a longest run begins within the curves of another one, it begins with them. -/
theorem Run.Longest.before_eq {before after : List (Segment Float)} {curves : List (Curve Float)}
    {r : Run} (hr : r.Longest (before ++ curves.map .draw ++ after))
    (hlow : before.length ≤ r.before.length)
    (hhigh : r.before.length ≤ before.length + curves.length) : r.before = before := by
  have hstands := hr.stands
  rw [List.append_assoc, List.append_assoc] at hstands
  rcases List.append_eq_append_iff.mp hstands with ⟨t, ht, hrest⟩ | ⟨t, ht, -⟩
  · -- A part of the curves before the run would end in a curve right before it.
    rw [ht, List.length_append] at hhigh
    have hpart : t <+: curves.map Segment.draw := by
      apply List.prefix_of_prefix_length_le ⟨_, hrest.symm⟩ (List.prefix_append _ after)
      rw [List.length_map]
      omega
    cases hlast : t.getLast? with
    | none =>
      rw [ht, List.getLast?_eq_none_iff.mp hlast, List.append_nil]
    | some s =>
      have hs : draws s = false := by
        apply hr.begins
        rw [ht, List.getLast?_append, hlast]
        rfl
      obtain ⟨c, -, rfl⟩ := List.mem_map.mp (hpart.subset (List.mem_of_getLast? hlast))
      cases hs
  · rw [ht, List.length_append] at hlow
    have hnil : t = [] := List.eq_nil_of_length_eq_zero (by omega)
    rw [ht, hnil, List.append_nil]

theorem Run.Longest.eq_of_begins {before after : List (Segment Float)} {curves : List (Curve Float)}
    {r : Run} (hr : r.Longest (before ++ curves.map .draw ++ after))
    (hafter : ∀ s ∈ after.head?, draws s = false) (hlow : before.length ≤ r.before.length)
    (hhigh : r.before.length ≤ before.length + curves.length) : r = ⟨before, curves, after⟩ := by
  -- Both lists of curves are all curves from there on, since what follows does not draw.
  have hbefore := hr.before_eq hlow hhigh
  have hstands := hr.stands
  rw [hbefore, List.append_assoc, List.append_assoc, List.append_cancel_left_eq] at hstands
  have hmap : curves.map Segment.draw = r.curves.map Segment.draw := by
    rw [← takeWhile_draws curves hafter, hstands, takeWhile_draws r.curves hr.ends]
  have hcurves : curves = r.curves :=
    List.map_injective_iff.mpr (fun a b h => Segment.draw.inj h) hmap
  rw [hmap, List.append_cancel_left_eq] at hstands
  rw [← hbefore, hcurves, hstands]

theorem mem_ended {before after : List (Segment Float)} {curves : List (Curve Float)}
    (hbefore : ∀ s ∈ before.getLast?, draws s = false)
    (hafter : ∀ s ∈ after.head?, draws s = false) (r : Run) :
    r ∈ ended before curves after ↔ r.Longest (before ++ curves.map .draw ++ after) ∧
      before.length ≤ r.before.length ∧ r.before.length ≤ before.length + curves.length := by
  unfold ended
  constructor
  · intro h
    by_cases hc : curves = []
    · rw [if_pos hc] at h
      cases h
    · rw [if_neg hc] at h
      obtain rfl := List.mem_singleton.mp h
      exact ⟨⟨rfl, hc, hbefore, hafter⟩, Nat.le_refl _, Nat.le_add_right _ _⟩
  · rintro ⟨hr, hlow, hhigh⟩
    have heq := hr.eq_of_begins hafter hlow hhigh
    have hc : curves ≠ [] := by
      have h := hr.notEmpty
      rw [heq] at h
      exact h
    rw [if_neg hc]
    exact List.mem_singleton.mpr heq

theorem pairwise_ended (before after : List (Segment Float)) (curves : List (Curve Float))
    (R : Run → Run → Prop) : (ended before curves after).Pairwise R := by
  unfold ended
  by_cases hc : curves = []
  · rw [if_pos hc]
    exact List.Pairwise.nil
  · rw [if_neg hc]
    exact List.pairwise_singleton R _

theorem draws_eq_false {s : Segment Float} (h : ∀ c, s = .draw c → False) : draws s = false := by
  cases s with
  | draw c => exact (h c rfl).elim
  | moveTo q => rfl
  | closePath => rfl

theorem draws_last {before : List (Segment Float)} {s : Segment Float} (hs : draws s = false) :
    ∀ t ∈ (before ++ [s]).getLast?, draws t = false := by
  intro t ht
  rw [List.getLast?_concat] at ht
  exact Option.some.inj ht ▸ hs

/-- The runs that are found are the longest runs that begin at or after `before`. -/
theorem mem_runsFrom (before : List (Segment Float)) (curves : List (Curve Float))
    (rest : List (Segment Float)) (hbefore : ∀ s ∈ before.getLast?, draws s = false) (r : Run) :
    r ∈ runsFrom before curves rest ↔
      r.Longest (before ++ curves.map .draw ++ rest) ∧ before.length ≤ r.before.length := by
  fun_induction runsFrom before curves rest with
  | case1 before curves =>
    rw [mem_ended hbefore (fun s hs => by cases hs)]
    refine ⟨fun h => ⟨h.1, h.2.1⟩, fun h => ⟨h.1, h.2, ?_⟩⟩
    have hlen := congrArg List.length h.1.stands
    simp only [List.length_append, List.length_map, List.length_nil] at hlen
    omega
  | case2 before curves c rest ih =>
    rw [ih hbefore, List.map_append, List.append_assoc, List.append_assoc, List.append_assoc]
    rfl
  | case3 before curves s rest hs ih =>
    have hdraws := draws_eq_false hs
    have hhead : ∀ t ∈ (s :: rest).head?, draws t = false := by
      intro t ht
      exact Option.some.inj ht ▸ hdraws
    have hlist : before ++ curves.map Segment.draw ++ [s] ++ [] ++ rest =
        before ++ curves.map .draw ++ s :: rest := by simp
    rw [List.mem_append, mem_ended hbefore hhead, ih (draws_last hdraws), List.map_nil, hlist]
    simp only [List.length_append, List.length_map, List.length_singleton]
    -- A run begins within the curves here, or after the segment that ends them.
    constructor
    · rintro (⟨hr, hlow, -⟩ | ⟨hr, hlow⟩)
      · exact ⟨hr, hlow⟩
      · exact ⟨hr, by omega⟩
    · rintro ⟨hr, hlow⟩
      by_cases hhigh : r.before.length ≤ before.length + curves.length
      · exact Or.inl ⟨hr, hlow, hhigh⟩
      · exact Or.inr ⟨hr, by omega⟩

/-- The runs of a glyph are its longest runs of curves. -/
theorem mem_runs_iff (glyph : List (Segment Float)) (r : Run) :
    r ∈ runs glyph ↔ r.Longest glyph := by
  unfold runs
  rw [mem_runsFrom [] [] glyph (fun s hs => by cases hs)]
  exact ⟨fun h => h.1, fun h => ⟨h, Nat.zero_le _⟩⟩

theorem runsFrom_in_order (before : List (Segment Float)) (curves : List (Curve Float))
    (rest : List (Segment Float)) (hbefore : ∀ s ∈ before.getLast?, draws s = false) :
    (runsFrom before curves rest).Pairwise fun a b => a.before.length < b.before.length := by
  fun_induction runsFrom before curves rest with
  | case1 before curves => exact pairwise_ended before [] curves _
  | case2 before curves c rest ih => exact ih hbefore
  | case3 before curves s rest hs ih =>
    have hdraws := draws_eq_false hs
    have hhead : ∀ t ∈ (s :: rest).head?, draws t = false := by
      intro t ht
      exact Option.some.inj ht ▸ hdraws
    refine List.pairwise_append.mpr ⟨pairwise_ended _ _ _ _, ih (draws_last hdraws), ?_⟩
    intro a ha b hb
    obtain ⟨-, -, hhigh⟩ := (mem_ended hbefore hhead a).mp ha
    obtain ⟨-, hlow⟩ := (mem_runsFrom _ _ _ (draws_last hdraws) b).mp hb
    simp only [List.length_append, List.length_map, List.length_singleton] at hlow
    omega

/-- The runs of a glyph are listed in the order in which they stand in it, each once. -/
theorem runs_in_order (glyph : List (Segment Float)) :
    (runs glyph).Pairwise fun a b => a.before.length < b.before.length :=
  runsFrom_in_order [] [] glyph fun s hs => by cases hs

end PenPlot.Toolpath
