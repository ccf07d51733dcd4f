-- Rounding keeps doubles finite. The double next to a fraction is finite as long
-- as the fraction is at most the largest double, and rounding to decimal places
-- never leaves that range. So comparing rounded numbers is as good as equality.
import PenPlot.Number.Fixed
import PenPlot.Proofs.Number.Double
import PenPlot.Proofs.Number.Fraction

namespace PenPlot.Number

/-! ## The largest double -/

/-- The largest double: all bits of the significand, and the largest exponent. -/
def largest : Nat := (2 ^ 53 - 1) * 2 ^ 971

/-- Powers of two that a double holds. -/
theorem two_pow_le_largest {n : Nat} (h : n ≤ 1023) : 2 ^ n ≤ largest := by
  have hsignificand (e : Nat) (h : n ≤ 52 + e) : 2 ^ n ≤ (2 ^ 53 - 1) * 2 ^ e := by
    refine (Nat.pow_le_pow_right two_pos h).trans ?_
    rw [Nat.pow_add]
    exact Nat.mul_le_mul_right _ (by decide)
  exact hsignificand 971 h

theorem Dyadic.value_magnitude (d : Dyadic) :
    d.magnitude.value = d.significand * (2 : ℚ) ^ d.exponent := by
  unfold Dyadic.magnitude
  rw [Fraction.value_scale]
  unfold Fraction.value
  rw [Nat.cast_one, div_one, Nat.cast_ofNat]

theorem Dyadic.den_pos (d : Dyadic) : 0 < d.magnitude.den :=
  Fraction.den_scale_pos Nat.one_pos two_pos d.exponent

/-- What a double can hold: fifty-three bits, and an exponent from the smallest one to the
largest. -/
theorem decode_bounds {x : Float} {d : Dyadic} (h : decode x = .finite d) :
    d.significand < 2 ^ 53 ∧ -1074 ≤ d.exponent ∧ d.exponent ≤ 971 := by
  obtain ⟨negative, fields, hfields, rfl⟩ := exists_fields_of_decode h
  unfold dyadicOf infinityFields hiddenBit exponentValues at *
  split
  · exact ⟨by simp only; omega, by simp only; omega, by simp only; omega⟩
  · exact ⟨by simp only; omega, by simp only; omega, by simp only; omega⟩

/-- No finite double is larger than the largest. -/
theorem magnitude_le_largest {x : Float} {d : Dyadic} (h : decode x = .finite d) :
    d.magnitude.value ≤ largest := by
  obtain ⟨hsignificand, -, hexponent⟩ := decode_bounds h
  have hm : (d.significand : ℚ) ≤ 2 ^ 53 - 1 := by
    have hle : d.significand ≤ 2 ^ 53 - 1 := by omega
    calc (d.significand : ℚ) ≤ ((2 ^ 53 - 1 : Nat) : ℚ) := by exact_mod_cast hle
      _ = 2 ^ 53 - 1 := by norm_num
  have he : (2 : ℚ) ^ d.exponent ≤ 2 ^ (971 : Int) := zpow_le_zpow_right₀ one_le_two hexponent
  have hlargest : ((2 : ℚ) ^ 53 - 1) * 2 ^ (971 : Int) = largest := by
    unfold largest
    rw [Nat.cast_mul, Nat.cast_pow, Nat.cast_ofNat, ← zpow_natCast]
    norm_num
  rw [Dyadic.value_magnitude, ← hlargest]
  exact mul_le_mul hm he (by positivity) (by norm_num)

/-! ## The double next to a fraction -/

/-- The exponent of the last bit of the double next to a fraction. -/
def Fraction.lastBit (f : Fraction) : Int := max (-1074) (f.log2 - 52)

/-- The significand of that double. -/
def Fraction.significand (f : Fraction) : Nat := (f.scale 2 (-f.lastBit)).round

theorem Fraction.significand_le {f : Fraction} (hf : 0 < f.den) {n : Nat}
    (h : f.value ≤ n * (2 : ℚ) ^ f.lastBit) : f.significand ≤ n := by
  apply Fraction.round_le (Fraction.den_scale_pos hf two_pos _)
  have hpow : (0 : ℚ) < 2 ^ f.lastBit := by positivity
  rw [Fraction.value_scale, zpow_neg, Nat.cast_ofNat, ← div_eq_mul_inv, div_le_iff₀ hpow]
  exact h

/-- A significand has fifty-three bits, or rounds up to the next power of two. -/
theorem Fraction.significand_le_pow {f : Fraction} (hf : 0 < f.den) : f.significand ≤ 2 ^ 53 := by
  apply Fraction.significand_le hf
  have hlast : f.log2 + 1 ≤ f.lastBit + 53 := by
    unfold Fraction.lastBit
    omega
  calc f.value ≤ 2 ^ (f.log2 + 1) := (Fraction.value_lt_log2 hf).le
    _ ≤ 2 ^ (f.lastBit + 53) := zpow_le_zpow_right₀ one_le_two hlast
    _ = ((2 ^ 53 : Nat) : ℚ) * 2 ^ f.lastBit := by
      rw [zpow_add₀ two_ne_zero, mul_comm, Nat.cast_pow]
      norm_num

/-- The last bit of a fraction that is at most the largest double is one that a double has. -/
theorem Fraction.lastBit_le {f : Fraction} (hf : 0 < f.den) (hnum : 0 < f.num)
    (h : f.value ≤ largest) : f.lastBit ≤ 971 := by
  have hbound : (largest : ℚ) < 2 ^ (1024 : Int) := by
    have hnat : largest < 2 ^ 1024 := by decide +kernel
    calc (largest : ℚ) < ((2 ^ 1024 : Nat) : ℚ) := by exact_mod_cast hnat
      _ = 2 ^ (1024 : Int) := by
        rw [Nat.cast_pow, Nat.cast_ofNat, ← zpow_natCast]
        rfl
  have hlt : f.log2 < 1024 := Fraction.log2_lt hf hnum (h.trans_lt hbound)
  unfold Fraction.lastBit
  omega

/-- The fields of the double next to a fraction stay below those of infinity: with the
largest exponent, the significand cannot round up. -/
theorem Fraction.fields_lt {f : Fraction} (hf : 0 < f.den) (hnum : 0 < f.num)
    (h : f.value ≤ largest) :
    (f.lastBit + 1074).toNat * hiddenBit + f.significand < infinityFields := by
  have hlast := Fraction.lastBit_le hf hnum h
  have hpow := Fraction.significand_le_pow hf
  change _ * 2 ^ 52 + _ < 2047 * 2 ^ 52
  rcases Int.lt_or_eq_of_le hlast with hlt | heq
  -- A significand that rounds up carries into the exponent, and there is room for one more.
  · omega
  · have htop : f.significand ≤ 2 ^ 53 - 1 := by
      apply Fraction.significand_le hf
      rw [heq]
      refine h.trans (le_of_eq ?_)
      unfold largest
      rw [Nat.cast_mul, Nat.cast_pow 2 971, Nat.cast_ofNat, ← zpow_natCast]
      rfl
    rw [heq]
    change 2045 * 2 ^ 52 + _ < 2047 * 2 ^ 52
    omega

theorem nearest_eq (negative : Bool) {f : Fraction} (hnum : f.num ≠ 0)
    (h : (f.lastBit + 1074).toNat * hiddenBit + f.significand < infinityFields) :
    nearest negative f =
      ofFields negative ((f.lastBit + 1074).toNat * hiddenBit + f.significand) := by
  unfold nearest
  rw [if_neg hnum]
  exact if_neg (Nat.not_le.mpr h)

/-- The double next to a fraction that is at most the largest double is finite. -/
theorem nearest_finite (negative : Bool) {f : Fraction} (hf : 0 < f.den) (h : f.value ≤ largest) :
    ∃ d, decode (nearest negative f) = .finite d := by
  by_cases hnum : f.num = 0
  · unfold nearest
    rw [if_pos hnum]
    exact decode_ofFields negative (by decide)
  · have hfields := Fraction.fields_lt hf (Nat.pos_of_ne_zero hnum) h
    rw [nearest_eq negative hnum hfields]
    exact decode_ofFields negative hfields

/-! ## Rounding to decimal places -/

theorem Dyadic.units_le {x : Float} {d : Dyadic} (h : decode x = .finite d) (places : Nat) :
    d.units places ≤ largest * 10 ^ places := by
  apply Fraction.round_le (Fraction.den_scale_pos d.den_pos (by decide) _)
  rw [Fraction.value_scale, zpow_natCast, Nat.cast_mul, Nat.cast_pow]
  exact mul_le_mul_of_nonneg_right (magnitude_le_largest h) (by positivity)

theorem roundTo_eq {x : Float} {d : Dyadic} (h : decode x = .finite d) (places : Nat) :
    roundTo places x = nearest d.negative ⟨d.units places, Nat.pow 10 places⟩ := by
  unfold roundTo
  rw [h]

/-- Rounding leaves a finite double finite. -/
theorem roundTo_finite {x : Float} {d : Dyadic} (h : decode x = .finite d) (places : Nat) :
    ∃ r, decode (roundTo places x) = .finite r := by
  have hpow : 0 < Nat.pow 10 places := Nat.pow_pos (by decide)
  rw [roundTo_eq h]
  apply nearest_finite d.negative hpow
  unfold Fraction.value
  rw [div_le_iff₀ (by exact_mod_cast hpow)]
  exact_mod_cast Dyadic.units_le h places

theorem zeros_equal (a b : Bool) : (ofFields a 0 == ofFields b 0) = true := by
  cases a <;> cases b <;> decide +kernel

/-- Doubles of the same units and the same sign round to the same; without units, the sign
does not count. -/
theorem roundTo_equal {x y : Float} {a b : Dyadic} (hx : decode x = .finite a)
    (hy : decode y = .finite b) {places : Nat} (hunits : a.units places = b.units places)
    (hsign : a.negative = b.negative ∨ a.units places = 0) :
    (roundTo places x == roundTo places y) = true := by
  rcases hsign with hsame | hzero
  · have heq : roundTo places x = roundTo places y := by
      rw [roundTo_eq hx, roundTo_eq hy, hsame, hunits]
    rw [← heq]
    exact beq_self_of_isFinite ((isFinite_iff _).mpr (roundTo_finite hx places))
  · rw [roundTo_eq hx, roundTo_eq hy, ← hunits, hzero]
    exact zeros_equal a.negative b.negative

theorem Dyadic.units_zero {d : Dyadic} (h : d.significand = 0) (places : Nat) :
    d.units places = 0 := by
  apply Nat.le_zero.mp
  apply Fraction.round_le (Fraction.den_scale_pos d.den_pos (by decide) _)
  rw [Fraction.value_scale, Dyadic.value_magnitude, h]
  simp

/-- The two zeros round to zeros, whichever way they are signed. -/
theorem roundTo_zeros {x y : Float} {a b : Dyadic} (hx : decode x = .finite a)
    (hy : decode y = .finite b) (ha : a.significand = 0) (hb : b.significand = 0) (places : Nat) :
    (roundTo places x == roundTo places y) = true := by
  have hu := Dyadic.units_zero ha places
  exact roundTo_equal hx hy (hu.trans (Dyadic.units_zero hb places).symm) (Or.inr hu)

theorem roundTo_self {x : Float} (hx : x.isFinite = true) (places : Nat) :
    (roundTo places x == roundTo places x) = true := by
  obtain ⟨a, ha⟩ := (isFinite_iff x).mp hx
  exact roundTo_equal ha ha rfl (Or.inl rfl)

theorem roundTo_of_not_finite {x : Float} (hx : ¬ x.isFinite = true) (places : Nat) :
    roundTo places x = x := by
  unfold roundTo
  cases hd : decode x with
  | finite d => exact absurd ((isFinite_iff x).mpr ⟨d, hd⟩) hx
  | _ => rfl

/-- Equal doubles round to equal doubles. -/
theorem roundTo_congr {x y : Float} (h : (x == y) = true) (places : Nat) :
    (roundTo places x == roundTo places y) = true := by
  obtain ⟨hnumber, -, rfl | ⟨rfl, rfl⟩ | ⟨rfl, rfl⟩⟩ := Float.beq_iff_ne_nan_and_eq.mp h
  · by_cases hx : x.isFinite = true
    · exact roundTo_self hx places
    · rw [roundTo_of_not_finite hx]
      exact Float.beq_self_iff.mpr hnumber
  · exact roundTo_zeros decode_zero decode_minus_zero rfl rfl places
  · exact roundTo_zeros decode_minus_zero decode_zero rfl rfl places

/-- What rounds to a finite double is finite itself. -/
theorem isFinite_roundTo (places : Nat) (x : Float) :
    (roundTo places x).isFinite = true ↔ x.isFinite = true := by
  constructor
  · intro h
    by_contra hx
    rw [roundTo_of_not_finite hx] at h
    exact hx h
  · intro h
    obtain ⟨d, hd⟩ := (isFinite_iff x).mp h
    exact (isFinite_iff _).mpr (roundTo_finite hd places)

/-- What rounds to the same as a finite double is finite. -/
theorem isFinite_of_roundTo_beq {x y : Float} (hy : y.isFinite = true) {places : Nat}
    (h : (roundTo places x == roundTo places y) = true) : x.isFinite = true := by
  have hround := (isFinite_roundTo places y).mpr hy
  exact (isFinite_roundTo places x).mp (isFinite_of_beq hround h)

end PenPlot.Number
