-- Fractions as rational numbers. The library computes with whole numbers, one
-- above and one below the line; here each step is a step on the quotient, so
-- that how far a fraction is scaled and rounded can be said in one number.
import Mathlib.Algebra.Order.Field.Power
import Mathlib.Data.Rat.Cast.Order
import Mathlib.Tactic.Linarith
import Mathlib.Tactic.Positivity
import PenPlot.Number.Binary64

namespace PenPlot.Number

/-- The rational number that a fraction stands for. -/
def Fraction.value (f : Fraction) : ℚ := f.num / f.den

theorem Fraction.num_pos {f : Fraction} (h : 0 < f.value) : 0 < f.num := by
  refine Nat.pos_of_ne_zero fun hzero => ?_
  rw [Fraction.value, hzero, Nat.cast_zero, zero_div] at h
  exact h.false

/-! ## Scaling -/

theorem Fraction.value_scale (f : Fraction) (base : Nat) (e : Int) :
    (f.scale base e).value = f.value * (base : ℚ) ^ e := by
  unfold Fraction.value
  cases e with
  | ofNat e =>
    change ((f.num * base ^ e : Nat) : ℚ) / f.den = f.num / f.den * (base : ℚ) ^ ((e : Nat) : Int)
    rw [zpow_natCast, Nat.cast_mul, Nat.cast_pow, div_mul_eq_mul_div]
  | negSucc e =>
    change (f.num : ℚ) / ((f.den * base ^ (e + 1) : Nat) : ℚ) = _
    rw [zpow_negSucc, Nat.cast_mul, Nat.cast_pow, ← div_eq_mul_inv, div_div]

theorem Fraction.den_scale_pos {f : Fraction} (hf : 0 < f.den) {base : Nat} (hb : 0 < base)
    (e : Int) : 0 < (f.scale base e).den := by
  cases e with
  | ofNat e => exact hf
  | negSucc e => exact Nat.mul_pos hf (Nat.pow_pos hb)

theorem Fraction.reaches_iff {f : Fraction} (hf : 0 < f.den) {base : Nat} (hb : 0 < base)
    (e : Int) : f.reaches base e = true ↔ (base : ℚ) ^ e ≤ f.value := by
  have hden : (0 : ℚ) < (f.scale base (-e)).den := by
    exact_mod_cast Fraction.den_scale_pos hf hb (-e)
  have hone : (f.scale base (-e)).den ≤ (f.scale base (-e)).num ↔
      1 ≤ (f.scale base (-e)).value := by
    unfold Fraction.value
    rw [one_le_div hden, Nat.cast_le]
  have hpow : (0 : ℚ) < (base : ℚ) ^ e := zpow_pos (by exact_mod_cast hb) e
  unfold Fraction.reaches
  rw [decide_eq_true_iff, hone, Fraction.value_scale, zpow_neg, ← div_eq_mul_inv, one_le_div hpow]

/-! ## Rounding -/

/-- A quotient below a whole number may go up by one; the number itself leaves nothing to round. -/
theorem roundHalfEven_le {num den n : Nat} (h : num ≤ n * den) : roundHalfEven num den ≤ n := by
  unfold roundHalfEven
  have hdiv := Nat.div_add_mod num den
  have hle : num / den ≤ n := Nat.div_le_of_le_mul (by rwa [Nat.mul_comm])
  rcases Nat.lt_or_eq_of_le hle with hlt | heq
  · simp only
    split
    · exact hle
    · split
      · exact hlt
      · omega
  · have hrest : num % den = 0 := by
      rw [heq, Nat.mul_comm] at hdiv
      omega
    rw [hrest, heq]
    by_cases hden : den = 0
    · rw [hden, Nat.div_zero] at heq
      simp [hden, ← heq]
    · simp [Nat.pos_of_ne_zero hden]

/-- What is at most a whole number rounds to at most that number. -/
theorem Fraction.round_le {f : Fraction} (hf : 0 < f.den) {n : Nat} (h : f.value ≤ n) :
    f.round ≤ n := by
  apply roundHalfEven_le
  unfold Fraction.value at h
  rw [div_le_iff₀ (by exact_mod_cast hf)] at h
  exact_mod_cast h

/-! ## Powers of two -/

theorem two_pow_sub (a b : Nat) : (2 : ℚ) ^ a / 2 ^ b = 2 ^ ((a : Int) - b) := by
  rw [← zpow_natCast, ← zpow_natCast, ← zpow_sub₀ two_ne_zero]

/-- A positive fraction reaches the power of two that is named for it. -/
theorem Fraction.log2_le_value {f : Fraction} (hf : 0 < f.den) (hnum : 0 < f.num) :
    (2 : ℚ) ^ f.log2 ≤ f.value := by
  have hlow : (2 : ℚ) ^ f.num.log2 ≤ f.num := by
    exact_mod_cast Nat.log2_self_le (Nat.pos_iff_ne_zero.mp hnum)
  have hden : (f.den : ℚ) ≤ 2 ^ (f.den.log2 + 1) := by exact_mod_cast Nat.lt_log2_self.le
  have hguess : (2 : ℚ) ^ ((f.num.log2 : Int) - f.den.log2 - 1) ≤ f.value := by
    calc (2 : ℚ) ^ ((f.num.log2 : Int) - f.den.log2 - 1)
        = 2 ^ f.num.log2 / 2 ^ (f.den.log2 + 1) := by
          rw [two_pow_sub, Nat.cast_succ, sub_sub]
      _ ≤ f.num / 2 ^ (f.den.log2 + 1) := div_le_div_of_nonneg_right hlow (by positivity)
      _ ≤ f.value := div_le_div_of_nonneg_left (by positivity) (by exact_mod_cast hf) hden
  unfold Fraction.log2
  by_cases hreach : f.reaches 2 ((f.num.log2 : Int) - f.den.log2) = true
  · rw [if_pos hreach]
    exact (Fraction.reaches_iff hf two_pos _).mp hreach
  · rw [if_neg hreach]
    exact hguess

/-- A fraction lies below the next power of two. -/
theorem Fraction.value_lt_log2 {f : Fraction} (hf : 0 < f.den) : f.value < 2 ^ (f.log2 + 1) := by
  have hnum : (f.num : ℚ) < 2 ^ (f.num.log2 + 1) := by exact_mod_cast Nat.lt_log2_self
  have hden : (2 : ℚ) ^ f.den.log2 ≤ f.den := by
    exact_mod_cast Nat.log2_self_le (Nat.pos_iff_ne_zero.mp hf)
  have hguess : f.value < 2 ^ ((f.num.log2 : Int) - f.den.log2 + 1) := by
    calc f.value
        ≤ f.num / 2 ^ f.den.log2 :=
          div_le_div_of_nonneg_left (by positivity) (by positivity) hden
      _ < 2 ^ (f.num.log2 + 1) / 2 ^ f.den.log2 := div_lt_div_of_pos_right hnum (by positivity)
      _ = 2 ^ ((f.num.log2 : Int) - f.den.log2 + 1) := by
        rw [two_pow_sub, Nat.cast_succ, add_sub_right_comm]
  unfold Fraction.log2
  by_cases hreach : f.reaches 2 ((f.num.log2 : Int) - f.den.log2) = true
  · rw [if_pos hreach]
    exact hguess
  · rw [if_neg hreach, sub_add_cancel]
    exact not_le.mp (mt (Fraction.reaches_iff hf two_pos _).mpr hreach)

theorem Fraction.le_log2 {f : Fraction} (hf : 0 < f.den) {e : Int} (h : (2 : ℚ) ^ e ≤ f.value) :
    e ≤ f.log2 :=
  Int.lt_add_one_iff.mp <|
    (zpow_lt_zpow_iff_right₀ one_lt_two).mp (h.trans_lt (Fraction.value_lt_log2 hf))

theorem Fraction.log2_lt {f : Fraction} (hf : 0 < f.den) (hnum : 0 < f.num) {e : Int}
    (h : f.value < (2 : ℚ) ^ e) : f.log2 < e :=
  (zpow_lt_zpow_iff_right₀ one_lt_two).mp ((Fraction.log2_le_value hf hnum).trans_lt h)

end PenPlot.Number
