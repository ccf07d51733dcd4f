-- Doubles and their readings. A machine tells from the exponent field whether a
-- double is finite, and so does a reading; only the last field marks what is not.
-- Bits with any other field come back as they were written.
import Mathlib
import PenPlot.Number.Binary64

namespace PenPlot.Number

open Float.Model Float.Model.UnpackedFloat

/-! ## The exponent field -/

theorem toNat_exponentField (b : BitVec Format.binary64.numBits) :
    (unpackExponent b).toNat = b.toNat / hiddenBit % exponentValues := by
  simp [unpackExponent, hiddenBit, exponentValues, Nat.shiftRight_eq_div_pow]

theorem exponent_is_last (b : BitVec Format.binary64.numBits) :
    unpackExponent b = -1#_ ↔ b.toNat / hiddenBit % exponentValues + 1 = exponentValues := by
  rw [← BitVec.toNat_inj, toNat_exponentField]
  unfold exponentValues
  simp

/-- The bits of a double come back, unless its exponent field is the last one. -/
theorem toBits_ofBits {u : UInt64}
    (hu : u.toNat / hiddenBit % exponentValues + 1 ≠ exponentValues) :
    (Float.ofBits u).toBits = u := by
  have hnumber : ¬ @isNaNBits Format.binary64 u.toBitVec := by
    unfold isNaNBits
    rw [decide_eq_true_eq]
    exact fun h => hu ((exponent_is_last u.toBitVec).mp h.1)
  have hpack := @pack_unpack Format.binary64 u.toBitVec (by decide)
  rw [if_neg hnumber] at hpack
  exact congrArg UInt64.ofBitVec hpack

theorem toNat_fields (negative : Bool) {rest : Nat} (h : rest < signBit) :
    (UInt64.ofNat (if negative then signBit + rest else rest)).toNat =
      if negative then signBit + rest else rest := by
  unfold signBit at *
  rw [UInt64.toNat_ofNat']
  cases negative <;> simp <;> omega

/-! ## What is finite -/

/-- A double reads as a number exactly when its exponent field is not the last one. -/
theorem decode_finite_iff (x : Float) : (∃ d, decode x = .finite d) ↔
    x.toBits.toNat / hiddenBit % exponentValues + 1 ≠ exponentValues := by
  unfold decode
  by_cases hlast : x.toBits.toNat / hiddenBit % exponentValues + 1 = exponentValues
  · rw [if_pos hlast]
    refine iff_of_false ?_ (not_not_intro hlast)
    by_cases hempty : x.toBits.toNat % hiddenBit = 0 <;> simp [hempty]
  · rw [if_neg hlast]
    refine iff_of_true ?_ hlast
    by_cases hzero : x.toBits.toNat / hiddenBit % exponentValues = 0 <;> simp [hzero]

theorem isFinite_unpack {spec : Format} (b : BitVec spec.numBits) :
    (UnpackedFloat.unpack spec b).isFinite = true ↔ unpackExponent b ≠ -1#_ := by
  unfold UnpackedFloat.unpack
  by_cases hlast : unpackExponent b = -1#_
  · rw [if_pos hlast]
    refine iff_of_false ?_ (not_not_intro hlast)
    split <;> exact Bool.false_ne_true
  · rw [if_neg hlast]
    refine iff_of_true ?_ hlast
    split
    · split <;> rfl
    · rfl

theorem isFinite_iff (x : Float) : x.isFinite = true ↔ ∃ d, decode x = .finite d := by
  have hfield := @isFinite_unpack Format.binary64 x.toBits.toBitVec
  rw [decode_finite_iff, ne_eq, ← UInt64.toNat_toBitVec, ← exponent_is_last]
  exact hfield

/-- The number that the fields of a finite double stand for, the sign apart: without the hidden
bit where the exponent field is zero, and with it elsewhere. -/
def dyadicOf (negative : Bool) (fields : Nat) : Dyadic :=
  if fields < hiddenBit then ⟨negative, fields, -1074⟩
  else ⟨negative, fields % hiddenBit + hiddenBit, (fields / hiddenBit : Nat) - 1075⟩

theorem decode_eq_dyadicOf {x : Float} {negative : Bool} {fields : Nat}
    (hbits : x.toBits.toNat = if negative then signBit + fields else fields)
    (h : fields < infinityFields) : decode x = .finite (dyadicOf negative fields) := by
  unfold infinityFields signBit hiddenBit exponentValues at *
  have hfield : x.toBits.toNat / 0x10000000000000 % 0x800 = fields / 0x10000000000000 := by
    rw [hbits]
    split <;> omega
  have htail : x.toBits.toNat % 0x10000000000000 = fields % 0x10000000000000 := by
    rw [hbits]
    split <;> omega
  have hsign : decide (0x8000000000000000 ≤ x.toBits.toNat) = negative := by
    cases negative with
    | true =>
      rw [if_pos rfl] at hbits
      exact decide_eq_true (by omega)
    | false =>
      rw [if_neg Bool.false_ne_true] at hbits
      exact decide_eq_false (by omega)
  unfold decode dyadicOf signBit hiddenBit exponentValues
  simp only [hfield, htail, hsign]
  rw [if_neg (by omega)]
  by_cases hsmall : fields < 0x10000000000000
  · rw [if_pos (by omega), if_pos hsmall, Nat.mod_eq_of_lt hsmall]
  · rw [if_neg (by omega), if_neg hsmall]

/-- The fields of a finite double come back. -/
theorem decode_ofFields_eq (negative : Bool) {fields : Nat} (h : fields < infinityFields) :
    decode (ofFields negative fields) = .finite (dyadicOf negative fields) := by
  have hbits := toNat_fields negative (Nat.lt_trans h (by decide : infinityFields < signBit))
  have hfinite : (UInt64.ofNat (if negative then signBit + fields else fields)).toNat / hiddenBit %
      exponentValues + 1 ≠ exponentValues := by
    rw [hbits]
    unfold infinityFields signBit hiddenBit exponentValues at *
    cases negative <;> simp <;> omega
  apply decode_eq_dyadicOf _ h
  unfold ofFields
  rw [toBits_ofBits hfinite, hbits]

/-- What lies below infinity is finite. -/
theorem decode_ofFields (negative : Bool) {rest : Nat} (h : rest < infinityFields) :
    ∃ d, decode (ofFields negative rest) = .finite d :=
  ⟨_, decode_ofFields_eq negative h⟩

/-- A finite double is the number of its fields, which lie below infinity. -/
theorem exists_fields_of_decode {x : Float} {d : Dyadic} (h : decode x = .finite d) :
    ∃ negative fields, fields < infinityFields ∧ d = dyadicOf negative fields := by
  have hlast := (decode_finite_iff x).mp ⟨d, h⟩
  have hlt := x.toBits.toNat_lt
  have hfields : x.toBits.toNat % signBit < infinityFields := by
    unfold infinityFields signBit hiddenBit exponentValues at *
    omega
  have hbits : x.toBits.toNat = if decide (signBit ≤ x.toBits.toNat) then
      signBit + x.toBits.toNat % signBit else x.toBits.toNat % signBit := by
    unfold signBit
    split <;> simp_all <;> omega
  rw [decode_eq_dyadicOf hbits hfields, Reading.finite.injEq] at h
  exact ⟨_, _, hfields, h.symm⟩

/-- The two zeros. -/
theorem decode_zero : decode 0 = .finite ⟨false, 0, -1074⟩ := by decide

theorem decode_minus_zero : decode (-0) = .finite ⟨true, 0, -1074⟩ := by decide

/-! ## What is not finite -/

/-- A double that is not finite reads as an infinity or as no number, by its last field. -/
theorem decode_not_finite {x : Float} (h : ∀ d, decode x ≠ .finite d) :
    x.toBits.toNat / hiddenBit % exponentValues + 1 = exponentValues ∧
      decode x = if x.toBits.toNat % hiddenBit = 0 then .infinite (signBit ≤ x.toBits.toNat)
        else .nan := by
  have hlast : x.toBits.toNat / hiddenBit % exponentValues + 1 = exponentValues := by
    by_contra hnot
    obtain ⟨d, hd⟩ := (decode_finite_iff x).mpr hnot
    exact h d hd
  refine ⟨hlast, ?_⟩
  unfold decode
  rw [if_pos hlast]

theorem toNat_mantissaField (b : BitVec Format.binary64.numBits) :
    (unpackMantissa b).toNat = b.toNat % hiddenBit := by
  simp [unpackMantissa, hiddenBit]

/-- There is one double that is not a number. -/
theorem eq_nan_of_decode {x : Float} (h : decode x = .nan) : x = Float.nan := by
  obtain ⟨hlast, hdecode⟩ := decode_not_finite (x := x) (by simp [h])
  have hmantissa : @unpackMantissa Format.binary64 x.toBits.toBitVec ≠ 0#_ := by
    intro hzero
    have htail := congrArg BitVec.toNat hzero
    rw [toNat_mantissaField, UInt64.toNat_toBitVec] at htail
    simp [h, htail] at hdecode
  have hnan : x.isNaN = true := by
    change (@UnpackedFloat.unpack Format.binary64 x.toBits.toBitVec).isNaN = true
    unfold UnpackedFloat.unpack
    rw [if_pos ((exponent_is_last _).mpr hlast), if_neg hmantissa]
    rfl
  simpa [Float.isNaN_eq_decide_eq_nan] using hnan

/-- There is one infinity of each sign. -/
theorem toNat_toBits_infinite {x : Float} {negative : Bool} (h : decode x = .infinite negative) :
    x.toBits.toNat = if negative then signBit + infinityFields else infinityFields := by
  obtain ⟨hlast, hdecode⟩ := decode_not_finite (x := x) (by simp [h])
  have hlt := x.toBits.toNat_lt
  rw [h] at hdecode
  by_cases htail : x.toBits.toNat % hiddenBit = 0
  · rw [if_pos htail, Reading.infinite.injEq] at hdecode
    unfold infinityFields signBit hiddenBit exponentValues at *
    cases negative <;> simp at hdecode ⊢ <;> omega
  · simp [htail] at hdecode

/-- Doubles that are not finite are equal where their readings are. -/
theorem eq_of_decode_eq {x y : Float} (hx : ∀ d, decode x ≠ .finite d)
    (h : decode x = decode y) : x = y := by
  cases hy : decode y with
  | finite d => exact absurd (h.trans hy) (hx d)
  | nan => rw [eq_nan_of_decode hy, eq_nan_of_decode (h.trans hy)]
  | infinite negative =>
    have hbits := (toNat_toBits_infinite (h.trans hy)).trans (toNat_toBits_infinite hy).symm
    exact Float.toBits_inj.mp (UInt64.toNat_inj.mp hbits)

/-! ## Comparing -/

theorem beq_self_of_isFinite {x : Float} (hx : x.isFinite = true) : (x == x) = true := by
  rw [Float.beq_self_iff]
  rintro rfl
  exact absurd hx (by decide)

/-- A finite double equals finite ones alone. -/
theorem isFinite_of_beq {x y : Float} (hy : y.isFinite = true) (h : (x == y) = true) :
    x.isFinite = true := by
  obtain ⟨-, -, rfl | ⟨rfl, -⟩ | ⟨rfl, -⟩⟩ := Float.beq_iff_ne_nan_and_eq.mp h
  · exact hy
  · decide
  · decide

/-! ## Sums and products -/

variable {spec : Format} {a b : UnpackedFloat} {x y : Float}

end PenPlot.Number
