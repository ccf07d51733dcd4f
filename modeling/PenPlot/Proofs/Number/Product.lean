-- Products of doubles. The machine multiplies significands exactly and rounds the product to fewer
-- bits, with two bits to tell what it drops; what comes out is the double next to the product.
import PenPlot.Proofs.Number.Unpacked

namespace PenPlot.Number

open Float.Model Float.Model.UnpackedFloat

/-! ## Shifting -/

/-- What a significand and the two bits behind it say of the number that they are left from. -/
def Represents (m : ExtendedMantissa) (q : ℚ) : Prop :=
  match m.roundBit, m.stickyBit with
  | false, false => q = m.mantissa
  | false, true => m.mantissa < q ∧ q < m.mantissa + 1 / 2
  | true, false => q = m.mantissa + 1 / 2
  | true, true => m.mantissa + 1 / 2 < q ∧ q < m.mantissa + 1

variable {m : ExtendedMantissa} {q : ℚ}

theorem represents_exact (n : Nat) :
    Represents (ExtendedMantissa.ofMantissaAndAccuracy n .exact) n := rfl

/-- A shift by one place halves the number. -/
theorem Represents.shiftRightOne (h : Represents m q) : Represents m.shiftRightOne (q / 2) := by
  obtain ⟨n, round, sticky⟩ := m
  have hn : ((n % 2 : Nat) : ℚ) + 2 * ((n / 2 : Nat) : ℚ) = n := by
    exact_mod_cast Nat.mod_add_div n 2
  rcases Nat.mod_two_eq_zero_or_one n with heven | hodd
  · rw [heven, Nat.cast_zero] at hn
    cases round <;> cases sticky <;>
      simp only [Represents, ExtendedMantissa.shiftRightOne, heven, bne_self_eq_false,
        Bool.or_false, Bool.or_true] at h ⊢
    · linarith
    all_goals exact ⟨by linarith, by linarith⟩
  · have hbit : (n % 2 != 0) = true := by rw [hodd]; rfl
    rw [hodd, Nat.cast_one] at hn
    cases round <;> cases sticky <;>
      simp only [Represents, ExtendedMantissa.shiftRightOne, hbit, Bool.or_false,
        Bool.or_true] at h ⊢
    · linarith
    all_goals exact ⟨by linarith, by linarith⟩

theorem Represents.shiftRight (h : Represents m q) (n : Nat) :
    Represents (m >>> n) (q / 2 ^ n) := by
  change Represents (n.repeat ExtendedMantissa.shiftRightOne m) _
  induction n with
  | zero => simpa [Nat.repeat] using h
  | succ n ih =>
    rw [Nat.repeat, pow_succ, ← div_div]
    exact ih.shiftRightOne

theorem isNearest_of_lt {n : Nat} (h : |(n : ℚ) - q| < 1 / 2) : IsNearest q n :=
  ⟨h.le, fun htie => absurd htie h.ne⟩

/-- The two bits are all that rounding to the nearest number needs. -/
theorem Represents.isNearest (h : Represents m q) : IsNearest q m.roundedMantissa := by
  obtain ⟨n, round, sticky⟩ := m
  cases round <;> cases sticky <;>
    simp only [Represents, ExtendedMantissa.roundedMantissa, ExtendedMantissa.accuracy,
      Accuracy.roundToNearestEven] at h ⊢
  case false.false =>
    rw [h]
    exact isNearest_of_lt (by norm_num)
  case false.true => exact isNearest_of_lt (abs_lt.mpr ⟨by linarith, by linarith⟩)
  case true.true =>
    refine isNearest_of_lt (abs_lt.mpr ?_)
    push_cast
    exact ⟨by linarith, by linarith⟩
  case true.false =>
    rcases Nat.mod_two_eq_zero_or_one n with heven | hodd
    · rw [heven, Nat.add_zero, h]
      exact ⟨by norm_num, fun _ => Nat.even_iff.mpr heven⟩
    · rw [hodd, h]
      exact ⟨by push_cast; norm_num, fun _ => Nat.even_iff.mpr (by omega)⟩

/-! ## Rounding -/

variable {f : Fraction} {n : Nat} {e : Int}

theorem value_pos (hn : n ≠ 0) (hvalue : f.value = n * (2 : ℚ) ^ e) : 0 < f.value := by
  have hpos : (0 : ℚ) < n := by exact_mod_cast Nat.pos_of_ne_zero hn
  rw [hvalue]
  positivity

/-- The exponent of the largest power of two that is reached, told from the significand. -/
theorem log2_eq (hf : 0 < f.den) (hn : n ≠ 0) (hvalue : f.value = n * (2 : ℚ) ^ e) :
    f.log2 = n.log2 + e := by
  have hpow : (0 : ℚ) < 2 ^ e := by positivity
  have hlow : (2 : ℚ) ^ ((n.log2 : Int) + e) ≤ f.value := by
    have hle : (2 : ℚ) ^ n.log2 ≤ n := by exact_mod_cast Nat.log2_self_le hn
    rw [hvalue, zpow_add₀ two_ne_zero, zpow_natCast]
    exact mul_le_mul_of_nonneg_right hle hpow.le
  have hhigh : f.value < (2 : ℚ) ^ ((n.log2 : Int) + e + 1) := by
    have hlt : (n : ℚ) < 2 ^ (n.log2 + 1) := by exact_mod_cast Nat.lt_log2_self
    rw [hvalue, add_right_comm, zpow_add₀ two_ne_zero]
    exact mul_lt_mul_of_pos_right (by exact_mod_cast hlt) hpow
  have hnum := Fraction.num_pos (value_pos hn hvalue)
  have hbelow := Fraction.le_log2 hf hlow
  have habove := Fraction.log2_lt hf hnum hhigh
  omega

theorem targetExponent_eq (hf : 0 < f.den) (hn : n ≠ 0) (hvalue : f.value = n * (2 : ℚ) ^ e) :
    Format.binary64.targetExponent (totalExponent n e) = f.lastBit := by
  rw [Fraction.lastBit, log2_eq hf hn hvalue]
  simp only [Format.targetExponent, totalExponent, Format.mantissaBits, Format.minExponent]
  omega

/-- The machine shifts a significand to the last bit, and rounds to the nearest one. -/
theorem roundedMantissa_eq (hf : 0 < f.den) (hn : n ≠ 0) (hvalue : f.value = n * (2 : ℚ) ^ e)
    (he : e ≤ f.lastBit) :
    (shiftToTargetExponent .binary64 n e .exact).1.roundedMantissa = f.significand ∧
      (shiftToTargetExponent .binary64 n e .exact).2 = f.lastBit := by
  obtain ⟨shift, hshift⟩ := Int.le.dest he
  have hamount : (f.lastBit - e).toNat = shift := by omega
  rw [shiftToTargetExponent, targetExponent_eq hf hn hvalue, shiftToExponent, hamount]
  refine ⟨?_, hshift⟩
  have hnearest := ((represents_exact n).shiftRight shift).isNearest
  have hquotient : (n : ℚ) / 2 ^ shift = f.value / 2 ^ f.lastBit := by
    rw [hvalue, ← hshift, zpow_add₀ two_ne_zero, zpow_natCast]
    field_simp
  rw [hquotient] at hnearest
  exact hnearest.unique (Fraction.isNearest_significand hf)

/-- A significand of fifty-three bits stays where it is. -/
theorem shiftToTargetExponent_of_lt (hn : n < 2 ^ 53) (he : -1074 ≤ e) :
    shiftToTargetExponent .binary64 n e .exact = (⟨n, false, false⟩, e) := by
  have hlog : n.log2 < 53 := by
    by_cases hzero : n = 0
    · simp [hzero]
    · exact (Nat.log2_lt hzero).mpr hn
  have hle : Format.binary64.targetExponent (totalExponent n e) ≤ e := by
    simp only [Format.targetExponent, totalExponent, Format.mantissaBits, Format.minExponent]
    omega
  rw [shiftToTargetExponent, shiftToExponent, Int.toNat_eq_zero.mpr (by omega)]
  simp only [Int.natCast_zero, add_zero]
  rfl

/-- A significand that has rounded up to the next power of two moves by one place. -/
theorem shiftToTargetExponent_pow (he : -1074 ≤ e) :
    shiftToTargetExponent .binary64 (2 ^ 53) e .exact = (⟨2 ^ 52, false, false⟩, e + 1) := by
  have htarget : Format.binary64.targetExponent (totalExponent (2 ^ 53) e) = e + 1 := by
    simp only [Format.targetExponent, totalExponent, Format.mantissaBits, Format.minExponent,
      Nat.log2_two_pow]
    omega
  rw [shiftToTargetExponent, htarget, shiftToExponent, add_sub_cancel_left]
  rfl

/-- The machine rounds to the double next to a fraction. -/
theorem roundWithAccuracy_eq (negative : Bool) (hf : 0 < f.den) (hn : n ≠ 0)
    (hvalue : f.value = n * (2 : ℚ) ^ e) (he : e ≤ f.lastBit) :
    roundWithAccuracy .binary64 (signOf negative) n e .exact =
      (dyadicOf negative ((f.lastBit + 1074).toNat * hiddenBit + f.significand)).unpacked := by
  obtain ⟨hrounded, hexponent⟩ := roundedMantissa_eq hf hn hvalue he
  have hnum : 0 < f.num := Fraction.num_pos (value_pos hn hvalue)
  have hleast : -1074 ≤ f.lastBit := le_max_left _ _
  have hle := Fraction.significand_le_pow hf
  rw [dyadicOf_fields negative hleast hle fun hlast =>
    Fraction.le_significand hf (Fraction.hidden_le_value hf hnum hlast)]
  unfold roundWithAccuracy
  generalize shiftToTargetExponent .binary64 n e .exact = first at hrounded hexponent
  obtain ⟨shifted, exponent⟩ := first
  simp only at hrounded hexponent ⊢
  rw [hrounded, hexponent]
  rcases hle.lt_or_eq with hlt | heq
  · rw [if_pos hlt, shiftToTargetExponent_of_lt hlt hleast]
    rfl
  · rw [if_neg heq.not_lt, heq, shiftToTargetExponent_pow hleast]
    rfl

/-! ## Packing -/

/-- The double that is packed from its parts. -/
def packed (u : UnpackedFloat) : Float := .ofModel (Float.Model.pack u)

/-- A double is packed from the parts that the machine takes it apart into. -/
theorem packed_unpack (x : Float) : packed x.toModel.unpack = x := Float.ofBits_toBits x

/-- Fields below those of infinity are packed as they are. -/
theorem packed_dyadicOf (negative : Bool) {fields : Nat} (h : fields < infinityFields) :
    packed (dyadicOf negative fields).unpacked = ofFields negative fields := by
  rw [← unpack_of_decode (decode_ofFields_eq negative h), packed_unpack]

theorem packed_zero (negative : Bool) : packed (.zero (signOf negative)) = ofFields negative 0 :=
  @packed_dyadicOf negative 0 (by decide)

/-- What lies past the largest double is packed as infinity. -/
theorem packed_infinity (negative : Bool) {fields : Nat} (h : infinityFields ≤ fields) :
    packed (dyadicOf negative fields).unpacked = infinity negative := by
  have hsign : packed (.infinity (signOf negative)) = infinity negative := by
    cases negative <;> decide +kernel
  have hpacked {n : Nat} {e : Int} (hn : 0 < n) (he : 972 ≤ e) :
      packed (.finite (signOf negative) n e hn) = packed (.infinity (signOf negative)) := by
    unfold packed Float.Model.pack
    congr 3
    refine if_pos ?_
    simp only [Format.exponentBias]
    omega
  unfold infinityFields hiddenBit exponentValues at h
  unfold dyadicOf hiddenBit Dyadic.unpacked
  rw [if_neg (by omega), dif_neg (by simp only; omega), hpacked _ (by simp only; omega), hsign]

/-! ## Products -/

/-- The exact product of two doubles. -/
def Dyadic.times (a b : Dyadic) : Dyadic :=
  ⟨a.negative != b.negative, a.significand * b.significand, a.exponent + b.exponent⟩

theorem value_times (a b : Dyadic) :
    (a.times b).magnitude.value = a.magnitude.value * b.magnitude.value := by
  rw [Dyadic.value_magnitude, Dyadic.value_magnitude, Dyadic.value_magnitude]
  simp only [Dyadic.times, Nat.cast_mul, zpow_add₀ (two_ne_zero : (2 : ℚ) ≠ 0)]
  ring

theorem signOf_mul (a b : Bool) : signOf a * signOf b = signOf (a != b) := by
  cases a <;> cases b <;> rfl

variable {a b : Dyadic} {x y : Float}

/-- A product has the bits that rounding needs. -/
theorem exponent_times_le (ha : a.Canonical) (hb : b.Canonical)
    (hzero : (a.times b).significand ≠ 0) :
    (a.times b).exponent ≤ (a.times b).magnitude.lastBit := by
  have hlog := log2_eq (a.times b).den_pos hzero (a.times b).value_magnitude
  have hbits : (a.times b).exponent ≤ -1074 ∨ 2 ^ 52 ≤ (a.times b).significand := by
    obtain ⟨hapos, hbpos⟩ := Nat.mul_ne_zero_iff.mp hzero
    by_cases ha' : 2 ^ 52 ≤ a.significand
    · exact .inr (ha'.trans (Nat.le_mul_of_pos_right _ (Nat.pos_of_ne_zero hbpos)))
    · by_cases hb' : 2 ^ 52 ≤ b.significand
      · exact .inr (hb'.trans (Nat.le_mul_of_pos_left _ (Nat.pos_of_ne_zero hapos)))
      · have hexponent : a.exponent ≤ -1074 ∧ b.exponent ≤ -1074 :=
          ⟨not_lt.mp (mt ha.le_significand ha'), not_lt.mp (mt hb.le_significand hb')⟩
        refine .inl ?_
        simp only [Dyadic.times]
        omega
  unfold Fraction.lastBit
  rcases hbits with hsmall | hlarge
  · omega
  · have := (Nat.le_log2 hzero).mpr hlarge
    omega

theorem num_eq_zero {d : Dyadic} (h : d.significand = 0) : d.magnitude.num = 0 := by
  unfold Dyadic.magnitude
  rw [h]
  cases d.exponent <;> simp [Fraction.scale]

/-- The machine multiplies exactly, and rounds to the double next to the product. -/
theorem mul_eq_nearest (hx : decode x = .finite a) (hy : decode y = .finite b) :
    x * y = nearest (a.times b).negative (a.times b).magnitude := by
  have ha := canonical_of_decode hx
  have hb := canonical_of_decode hy
  change packed (UnpackedFloat.mul .binary64 x.toModel.unpack y.toModel.unpack) = _
  rw [unpack_of_decode hx, unpack_of_decode hy]
  by_cases hzero : (a.times b).significand = 0
  · have hmul : UnpackedFloat.mul .binary64 a.unpacked b.unpacked =
        .zero (signOf (a.times b).negative) := by
      unfold Dyadic.unpacked
      rcases Nat.mul_eq_zero.mp hzero with ha' | hb'
      · by_cases hb' : b.significand = 0 <;>
          simp [ha', hb', UnpackedFloat.mul, signOf_mul, Dyadic.times]
      · by_cases ha' : a.significand = 0 <;>
          simp [ha', hb', UnpackedFloat.mul, signOf_mul, Dyadic.times]
    rw [hmul, packed_zero, nearest, if_pos (num_eq_zero hzero)]
  · obtain ⟨hapos, hbpos⟩ := Nat.mul_ne_zero_iff.mp hzero
    have hmul : UnpackedFloat.mul .binary64 a.unpacked b.unpacked =
        roundWithAccuracy .binary64 (signOf (a.times b).negative) (a.times b).significand
          (a.times b).exponent .exact := by
      rw [Dyadic.unpacked, dif_neg hapos, Dyadic.unpacked, dif_neg hbpos, UnpackedFloat.mul,
        signOf_mul]
      rfl
    rw [hmul, roundWithAccuracy_eq _ (a.times b).den_pos hzero (a.times b).value_magnitude
      (exponent_times_le ha hb hzero)]
    unfold nearest
    rw [if_neg (Fraction.num_pos (value_pos hzero (a.times b).value_magnitude)).ne']
    simp only
    split
    · exact packed_infinity _ ‹_›
    · exact packed_dyadicOf _ (not_le.mp ‹_›)

end PenPlot.Number
