-- Doubles as the machine takes them apart. It reads a double as `decode` does, and compares two of
-- them by their exponents and then by their significands, which is how their values compare.
import PenPlot.Proofs.Number.Closest

namespace PenPlot.Number

open Float.Model Float.Model.UnpackedFloat

/-! ## Taking a double apart -/

/-- The sign of a number as the machine keeps it. -/
def signOf (negative : Bool) : Sign := if negative then .negative else .positive

/-- A finite double as the machine takes it apart. -/
def Dyadic.unpacked (d : Dyadic) : UnpackedFloat :=
  if h : d.significand = 0 then .zero (signOf d.negative)
  else .finite (signOf d.negative) d.significand d.exponent (Nat.pos_of_ne_zero h)

theorem signOf_unpackSign (b : BitVec Format.binary64.numBits) :
    Sign.ofBitVec (unpackSign b) = signOf (decide (signBit ≤ b.toNat)) := by
  have hlt : b.toNat < 2 ^ 64 := b.isLt
  have hbit : (unpackSign b).toNat = b.toNat / signBit := by
    simp [unpackSign, signBit, Nat.shiftRight_eq_div_pow]
    omega
  have hzero : unpackSign b = 0#1 ↔ ¬ signBit ≤ b.toNat := by
    rw [← BitVec.toNat_inj, hbit]
    unfold signBit
    simp
  unfold Sign.ofBitVec signOf
  by_cases hsign : signBit ≤ b.toNat
  · rw [if_neg (hzero.not.mpr (not_not_intro hsign)), if_pos (decide_eq_true hsign)]
  · rw [if_pos (hzero.mpr hsign), if_neg (by simpa using hsign)]

theorem exponentField_eq_zero (b : BitVec Format.binary64.numBits) :
    unpackExponent b = 0#_ ↔ b.toNat / hiddenBit % exponentValues = 0 := by
  rw [← BitVec.toNat_inj, toNat_exponentField]
  simp

theorem mantissaField_eq_zero (b : BitVec Format.binary64.numBits) :
    unpackMantissa b = 0#_ ↔ b.toNat % hiddenBit = 0 := by
  rw [← BitVec.toNat_inj, toNat_mantissaField]
  simp

theorem toNat_one_append (b : BitVec 52) : (1#1 ++ b).toNat = b.toNat + hiddenBit := by
  have hlt := b.isLt
  rw [BitVec.toNat_append, ← Nat.shiftLeft_add_eq_or_of_lt hlt]
  unfold hiddenBit
  simp
  omega

/-- The machine takes a finite double apart as it is read. -/
theorem unpack_of_decode {x : Float} {d : Dyadic} (h : decode x = .finite d) :
    x.toModel.unpack = d.unpacked := by
  have hlast := (decode_finite_iff x).mp ⟨d, h⟩
  unfold decode at h
  rw [if_neg hlast] at h
  change UnpackedFloat.unpack Format.binary64 x.toBits.toBitVec = _
  rw [← UInt64.toNat_toBitVec] at h hlast
  generalize x.toBits.toBitVec = b at h hlast
  have hexponent : @unpackExponent Format.binary64 b ≠ -1#_ := (exponent_is_last b).not.mpr hlast
  unfold UnpackedFloat.unpack
  rw [if_neg hexponent]
  by_cases hfield : b.toNat / hiddenBit % exponentValues = 0
  · rw [if_pos ((exponentField_eq_zero b).mpr hfield)]
    rw [if_pos hfield, Reading.finite.injEq] at h
    by_cases htail : b.toNat % hiddenBit = 0
    · rw [dif_pos ((mantissaField_eq_zero b).mpr htail), signOf_unpackSign, ← h, Dyadic.unpacked,
        dif_pos htail]
    · rw [dif_neg ((mantissaField_eq_zero b).not.mpr htail), ← h, Dyadic.unpacked,
        dif_neg htail]
      simp only [signOf_unpackSign, toNat_mantissaField, toNat_exponentField, hfield]
      rfl
  · rw [if_neg ((exponentField_eq_zero b).not.mpr hfield)]
    rw [if_neg hfield, Reading.finite.injEq] at h
    have hne : b.toNat % hiddenBit + hiddenBit ≠ 0 := by unfold hiddenBit; omega
    rw [← h, Dyadic.unpacked, dif_neg hne]
    simp only [signOf_unpackSign, toNat_exponentField, toNat_one_append, toNat_mantissaField]
    rfl

/-! ## Comparing -/

/-- A finite double with its sign, as a rational number. -/
def Dyadic.value (d : Dyadic) : ℚ := withSign d.negative d.magnitude.value

/-- A number in the form that a double has: all bits of the significand are used, unless the
exponent is the smallest one. -/
structure Dyadic.Canonical (d : Dyadic) : Prop where
  significand_lt : d.significand < 2 ^ 53
  le_exponent : -1074 ≤ d.exponent
  le_significand : -1074 < d.exponent → 2 ^ 52 ≤ d.significand

theorem canonical_of_decode {x : Float} {d : Dyadic} (h : decode x = .finite d) : d.Canonical := by
  obtain ⟨negative, fields, hfields, rfl⟩ := exists_fields_of_decode h
  unfold dyadicOf infinityFields hiddenBit exponentValues at *
  split <;> constructor <;> simp only <;> omega

variable {a b : Dyadic}

/-- Of two numbers in that form the one with the larger exponent is larger. -/
theorem Dyadic.Canonical.value_lt (ha : a.Canonical) (hb : b.Canonical)
    (h : a.exponent < b.exponent) : a.magnitude.value < b.magnitude.value := by
  have hsmall : (a.significand : ℚ) < 2 ^ 53 := by exact_mod_cast ha.significand_lt
  have hlarge : (2 : ℚ) ^ 52 ≤ b.significand := by
    exact_mod_cast hb.le_significand (ha.le_exponent.trans_lt h)
  rw [Dyadic.value_magnitude, Dyadic.value_magnitude]
  calc (a.significand : ℚ) * 2 ^ a.exponent < 2 ^ 53 * 2 ^ a.exponent :=
        mul_lt_mul_of_pos_right hsmall (by positivity)
    _ = 2 ^ 52 * 2 ^ (a.exponent + 1) := by rw [zpow_add_one₀ two_ne_zero]; ring
    _ ≤ 2 ^ 52 * 2 ^ b.exponent :=
        mul_le_mul_of_nonneg_left (zpow_le_zpow_right₀ one_le_two (by omega)) (by positivity)
    _ ≤ b.significand * 2 ^ b.exponent := mul_le_mul_of_nonneg_right hlarge (by positivity)

/-- Exponents are compared first, and then significands. -/
theorem Dyadic.Canonical.compare_magnitude (ha : a.Canonical) (hb : b.Canonical) :
    (compare a.exponent b.exponent).then (compare a.significand b.significand) =
      compare a.magnitude.value b.magnitude.value := by
  rcases lt_trichotomy a.exponent b.exponent with hlt | heq | hgt
  · rw [compare_lt_iff_lt.mpr hlt, compare_lt_iff_lt.mpr (ha.value_lt hb hlt)]
    rfl
  · have hpow : (0 : ℚ) < 2 ^ b.exponent := by positivity
    rw [compare_eq_iff_eq.mpr heq, Ordering.then, Dyadic.value_magnitude, Dyadic.value_magnitude,
      heq]
    rcases lt_trichotomy a.significand b.significand with hlt | heq | hgt
    · have hcast : (a.significand : ℚ) < b.significand := by exact_mod_cast hlt
      rw [compare_lt_iff_lt.mpr hlt, compare_lt_iff_lt.mpr (mul_lt_mul_of_pos_right hcast hpow)]
    · rw [compare_eq_iff_eq.mpr heq, heq, compare_eq_iff_eq.mpr rfl]
    · have hcast : (b.significand : ℚ) < a.significand := by exact_mod_cast hgt
      rw [compare_gt_iff_gt.mpr hgt, compare_gt_iff_gt.mpr (mul_lt_mul_of_pos_right hcast hpow)]
  · rw [compare_gt_iff_gt.mpr hgt, compare_gt_iff_gt.mpr (hb.value_lt ha hgt)]
    rfl

theorem Dyadic.magnitude_pos (h : a.significand ≠ 0) : 0 < a.magnitude.value := by
  have hpos : (0 : ℚ) < a.significand := by exact_mod_cast Nat.pos_of_ne_zero h
  rw [Dyadic.value_magnitude]
  positivity

theorem Dyadic.magnitude_eq_zero (h : a.significand = 0) : a.magnitude.value = 0 := by
  rw [Dyadic.value_magnitude, h, Nat.cast_zero, zero_mul]

/-- The machine compares doubles by their values. -/
theorem compare_unpacked (ha : a.Canonical) (hb : b.Canonical) :
    a.unpacked.compare b.unpacked = some (compare a.value b.value) := by
  have hmagnitude := ha.compare_magnitude hb
  have hswap : compare (-a.magnitude.value) (-b.magnitude.value) =
      (compare a.magnitude.value b.magnitude.value).swap := by
    rcases lt_trichotomy a.magnitude.value b.magnitude.value with hlt | heq | hgt
    · rw [compare_lt_iff_lt.mpr hlt, compare_gt_iff_gt.mpr (neg_lt_neg hlt)]
      rfl
    · rw [heq, compare_eq_iff_eq.mpr rfl, compare_eq_iff_eq.mpr rfl]
      rfl
    · rw [compare_gt_iff_gt.mpr hgt, compare_lt_iff_lt.mpr (neg_lt_neg hgt)]
      rfl
  unfold Dyadic.unpacked Dyadic.value
  by_cases hazero : a.significand = 0 <;> by_cases hbzero : b.significand = 0
  · rw [dif_pos hazero, dif_pos hbzero, Dyadic.magnitude_eq_zero hazero,
      Dyadic.magnitude_eq_zero hbzero]
    cases a.negative <;> cases b.negative <;> simp [UnpackedFloat.compare, withSign]
  · have hpos := Dyadic.magnitude_pos hbzero
    have hplus := compare_lt_iff_lt.mpr hpos
    have hminus := compare_gt_iff_gt.mpr (neg_neg_of_pos hpos)
    rw [dif_pos hazero, dif_neg hbzero, Dyadic.magnitude_eq_zero hazero]
    cases a.negative <;> cases b.negative <;>
      simp [UnpackedFloat.compare, withSign, signOf, hplus, hminus]
  · have hpos := Dyadic.magnitude_pos hazero
    have hplus := compare_gt_iff_gt.mpr hpos
    have hminus := compare_lt_iff_lt.mpr (neg_neg_of_pos hpos)
    rw [dif_neg hazero, dif_pos hbzero, Dyadic.magnitude_eq_zero hbzero]
    cases a.negative <;> cases b.negative <;>
      simp [UnpackedFloat.compare, withSign, signOf, hplus, hminus]
  · have hapos := Dyadic.magnitude_pos hazero
    have hbpos := Dyadic.magnitude_pos hbzero
    have hplus := compare_gt_iff_gt.mpr ((neg_neg_of_pos hbpos).trans hapos)
    have hminus := compare_lt_iff_lt.mpr ((neg_neg_of_pos hapos).trans hbpos)
    rw [dif_neg hazero, dif_neg hbzero]
    cases a.negative <;> cases b.negative <;>
      simp [UnpackedFloat.compare, withSign, signOf, hmagnitude, hswap, hplus, hminus]

variable {x y : Float}

theorem lt_iff (hx : decode x = .finite a) (hy : decode y = .finite b) :
    x < y ↔ a.value < b.value := by
  have hcompare := compare_unpacked (canonical_of_decode hx) (canonical_of_decode hy)
  rw [← unpack_of_decode hx, ← unpack_of_decode hy] at hcompare
  change decide (x.toModel < y.toModel) = true ↔ _
  rw [decide_eq_true_iff]
  change x.toModel.unpack.lt y.toModel.unpack = true ↔ _
  rw [UnpackedFloat.lt, hcompare, beq_iff_eq, Option.some_inj, compare_lt_iff_lt]

theorem le_iff (hx : decode x = .finite a) (hy : decode y = .finite b) :
    x ≤ y ↔ a.value ≤ b.value := by
  have hcompare := compare_unpacked (canonical_of_decode hx) (canonical_of_decode hy)
  rw [← unpack_of_decode hx, ← unpack_of_decode hy] at hcompare
  change decide (x.toModel ≤ y.toModel) = true ↔ _
  rw [decide_eq_true_iff]
  change x.toModel.unpack.le y.toModel.unpack = true ↔ _
  rw [UnpackedFloat.le, hcompare, Option.any_some, ← compare_le_iff_le, Ordering.isLE_iff_ne_gt]

end PenPlot.Number
