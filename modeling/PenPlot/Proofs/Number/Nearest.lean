-- Rounding to decimal places, said without a way to compute it: of the whole numbers the
-- nearest one, and of two that are equally near the even one. There is only one such number,
-- so two doubles are printed alike exactly when they have the same sign and round to it.
import Mathlib.Algebra.Order.Group.Unbundled.Abs
import PenPlot.Proofs.Number.Decimal

namespace PenPlot.Number

/-! ## The nearest whole number -/

/-- A whole number is nearest to a fraction, and even if another one is equally near. -/
structure IsNearest (q : ℚ) (n : Nat) : Prop where
  near : |(n : ℚ) - q| ≤ 1 / 2
  tie : |(n : ℚ) - q| = 1 / 2 → Even n

/-- Half a unit is what a quotient may be off. -/
theorem isNearest_div {num den n : Nat} (hden : 0 < den) (hlow : 2 * num ≤ 2 * (n * den) + den)
    (hhigh : 2 * (n * den) ≤ 2 * num + den)
    (htie : 2 * num = 2 * (n * den) + den ∨ 2 * (n * den) = 2 * num + den → Even n) :
    IsNearest (num / den) n := by
  have hd : (0 : ℚ) < den := by exact_mod_cast hden
  have hoff : (n : ℚ) - num / den = (n * den - num) / den := by
    rw [sub_div, mul_div_cancel_right₀ _ hd.ne']
  have hl : 2 * (num : ℚ) ≤ 2 * (n * den) + den := by exact_mod_cast hlow
  have hh : 2 * (n * den) ≤ 2 * (num : ℚ) + den := by exact_mod_cast hhigh
  refine ⟨?_, fun heq => htie ?_⟩
  · rw [hoff, abs_div, abs_of_pos hd, div_le_iff₀ hd, abs_le]
    constructor <;> linarith
  · rw [hoff, abs_div, abs_of_pos hd, div_eq_iff hd.ne', abs_eq (by positivity)] at heq
    rcases heq with hup | hdown
    · right
      have hcast : 2 * ((n : ℚ) * den) = 2 * num + den := by linarith
      exact_mod_cast hcast
    · left
      have hcast : 2 * (num : ℚ) = 2 * (n * den) + den := by linarith
      exact_mod_cast hcast

theorem isNearest_roundHalfEven (num : Nat) {den : Nat} (hden : 0 < den) :
    IsNearest (num / den) (roundHalfEven num den) := by
  have hdiv := Nat.div_add_mod' num den
  have hrest := Nat.mod_lt num hden
  unfold roundHalfEven
  simp only
  split
  case isTrue hdown =>
    exact isNearest_div hden (by omega) (by omega) (by omega)
  case isFalse hnot =>
    have hup : (num / den + 1) * den = num / den * den + den := Nat.succ_mul _ _
    split
    · exact isNearest_div hden (by omega) (by omega) (by omega)
    · -- A half: the quotient if it is even, the next number if it is odd.
      rcases Nat.mod_two_eq_zero_or_one (num / den) with heven | hodd
      · rw [heven, Nat.add_zero]
        exact isNearest_div hden (by omega) (by omega) fun _ => Nat.even_iff.mpr heven
      · rw [hodd]
        exact isNearest_div hden (by omega) (by omega) fun _ => Nat.even_iff.mpr (by omega)

/-- Two neighbours are not both even, so only one number is nearest. -/
theorem IsNearest.le {q : ℚ} {n k : Nat} (hn : IsNearest q n) (hk : IsNearest q k) : n ≤ k := by
  by_contra hlt
  have hstep : (k : ℚ) + 1 ≤ n := by exact_mod_cast not_le.mp hlt
  obtain ⟨-, hnq⟩ := abs_le.mp hn.near
  obtain ⟨hqk, -⟩ := abs_le.mp hk.near
  have hnhalf : (n : ℚ) - q = 1 / 2 := by linarith
  have hkhalf : (k : ℚ) - q = -(1 / 2) := by linarith
  have hnext : n = k + 1 := by
    have hcast : (n : ℚ) = k + 1 := by linarith
    exact_mod_cast hcast
  have hneven : Even n := hn.tie (by rw [hnhalf]; norm_num)
  have hkeven : Even k := hk.tie (by rw [hkhalf]; norm_num)
  rw [hnext, Nat.even_add_one] at hneven
  exact hneven hkeven

theorem IsNearest.unique {q : ℚ} {n k : Nat} (hn : IsNearest q n) (hk : IsNearest q k) : n = k :=
  Nat.le_antisymm (hn.le hk) (hk.le hn)

/-- Half a unit below an even number is where rounding begins to reach it. -/
theorem IsNearest.even_le_iff {q : ℚ} {n k : Nat} (h : IsNearest q n) (hk : Even k) :
    k ≤ n ↔ (k : ℚ) - 1 / 2 ≤ q := by
  obtain ⟨hlow, hhigh⟩ := abs_le.mp h.near
  constructor
  · intro hle
    have hcast : (k : ℚ) ≤ n := by exact_mod_cast hle
    linarith
  · intro hle
    by_contra hlt
    have hstep : (n : ℚ) + 1 ≤ k := by exact_mod_cast not_le.mp hlt
    have hnext : k = n + 1 := by
      have hcast : (k : ℚ) = n + 1 := by linarith
      exact_mod_cast hcast
    have htie : |(n : ℚ) - q| = 1 / 2 := by
      rw [show (n : ℚ) - q = -(1 / 2) by linarith]
      norm_num
    rw [hnext, Nat.even_add_one] at hk
    exact hk (h.tie htie)

/-! ## Doubles that round alike -/

theorem Dyadic.isNearest_units (d : Dyadic) (places : Nat) :
    IsNearest (d.magnitude.value * 10 ^ places) (d.units places) := by
  have hvalue := Fraction.value_scale d.magnitude 10 places
  rw [zpow_natCast, Nat.cast_ofNat] at hvalue
  rw [← hvalue]
  exact isNearest_roundHalfEven _ (Fraction.den_scale_pos d.den_pos (by decide) _)

end PenPlot.Number
