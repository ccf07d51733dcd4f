-- The double next to a fraction is the closest one: no other finite double lies nearer to it.
-- So a double that is rounded to decimal places is as close to its decimal as it was before, and
-- has the same nearest decimal. Two decimals never meet in one double, however far apart the
-- doubles lie, and rounded doubles are equal exactly where their decimals are.
import PenPlot.Proofs.Number.Nearest

namespace PenPlot.Number

/-! ## The value of the fields -/

theorem negative_dyadicOf (negative : Bool) (fields : Nat) :
    (dyadicOf negative fields).negative = negative := by
  unfold dyadicOf
  split <;> rfl

/-- A significand and an exponent that are packed as one number, also where the significand has
rounded up to the next power of two. -/
theorem dyadicOf_fields (negative : Bool) {e : Int} (he : -1074 ≤ e) {m : Nat} (hm : m ≤ 2 ^ 53)
    (hnormal : -1074 < e → 2 ^ 52 ≤ m) :
    dyadicOf negative ((e + 1074).toNat * hiddenBit + m) =
      if m < 2 ^ 53 then ⟨negative, m, e⟩ else ⟨negative, 2 ^ 52, e + 1⟩ := by
  unfold dyadicOf hiddenBit
  split
  -- No hidden bit, so the exponent is the smallest one.
  · rw [if_pos (by omega)]
    congr 1 <;> omega
  · split <;> congr 1 <;> omega

/-- They stand for what they stand for apart. -/
theorem value_dyadicOf (negative : Bool) {e : Int} (he : -1074 ≤ e) {m : Nat} (hm : m ≤ 2 ^ 53)
    (hnormal : -1074 < e → 2 ^ 52 ≤ m) :
    (dyadicOf negative ((e + 1074).toNat * hiddenBit + m)).magnitude.value = m * (2 : ℚ) ^ e := by
  rw [dyadicOf_fields negative he hm hnormal, Dyadic.value_magnitude]
  split
  · rfl
  · obtain rfl : m = 2 ^ 53 := by omega
    rw [zpow_add_one₀ two_ne_zero]
    push_cast
    ring

/-! ## The closest double -/

/-- Of the whole numbers none is nearer than the nearest. -/
theorem IsNearest.closest {q : ℚ} {n : Nat} (h : IsNearest q n) (k : Nat) :
    |(n : ℚ) - q| ≤ |(k : ℚ) - q| := by
  by_cases hnk : n = k
  · rw [hnk]
  · have hapart : (1 : ℚ) ≤ |(n : ℚ) - k| := by
      have hint : (1 : Int) ≤ |(n : Int) - k| := Int.one_le_abs (by omega)
      exact_mod_cast hint
    have htriangle := abs_sub_le (n : ℚ) q k
    rw [abs_sub_comm q] at htriangle
    have hnear := h.near
    linarith

theorem Fraction.isNearest_significand {f : Fraction} (hf : 0 < f.den) :
    IsNearest (f.value / 2 ^ f.lastBit) f.significand := by
  have h := isNearest_roundHalfEven (f.scale 2 (-f.lastBit)).num
    (Fraction.den_scale_pos hf two_pos (-f.lastBit))
  have hvalue := Fraction.value_scale f 2 (-f.lastBit)
  unfold Fraction.value at hvalue
  rw [hvalue, zpow_neg, Nat.cast_ofNat, ← div_eq_mul_inv] at h
  exact h

/-- How far a number of last bits is from a fraction. -/
theorem Fraction.abs_sub_eq (f : Fraction) (n : ℚ) :
    |n * 2 ^ f.lastBit - f.value| = |n - f.value / 2 ^ f.lastBit| * 2 ^ f.lastBit := by
  have hpow : (0 : ℚ) < 2 ^ f.lastBit := by positivity
  rw [← abs_of_pos hpow, ← abs_mul, abs_of_pos hpow, sub_mul, div_mul_cancel₀ _ hpow.ne']

/-- In units of its last bit, the double next to a fraction is closer than any other number. -/
theorem Fraction.significand_closest {f : Fraction} (hf : 0 < f.den) (k : Nat) :
    |f.significand * (2 : ℚ) ^ f.lastBit - f.value| ≤ |k * (2 : ℚ) ^ f.lastBit - f.value| := by
  rw [f.abs_sub_eq, f.abs_sub_eq]
  exact mul_le_mul_of_nonneg_right ((Fraction.isNearest_significand hf).closest k) (by positivity)

/-- A fraction whose last bit is not the smallest one of all reaches the hidden bit. -/
theorem Fraction.hidden_le_value {f : Fraction} (hf : 0 < f.den) (hnum : 0 < f.num)
    (h : -1074 < f.lastBit) : ((2 ^ 52 : Nat) : ℚ) * 2 ^ f.lastBit ≤ f.value := by
  have hlast : f.lastBit + 52 = f.log2 := by
    unfold Fraction.lastBit at *
    omega
  calc ((2 ^ 52 : Nat) : ℚ) * 2 ^ f.lastBit = 2 ^ f.log2 := by
        rw [← hlast, zpow_add₀ two_ne_zero, mul_comm, Nat.cast_pow]
        norm_num
    _ ≤ f.value := Fraction.log2_le_value hf hnum

theorem Fraction.le_significand {f : Fraction} (hf : 0 < f.den) {n : Nat}
    (h : n * (2 : ℚ) ^ f.lastBit ≤ f.value) : n ≤ f.significand := by
  have hpow : (0 : ℚ) < 2 ^ f.lastBit := by positivity
  have hq : (n : ℚ) ≤ f.value / 2 ^ f.lastBit := (le_div_iff₀ hpow).mpr h
  obtain ⟨hlow, -⟩ := abs_le.mp (Fraction.isNearest_significand hf).near
  have hcast : (n : ℚ) < f.significand + 1 := by linarith
  exact Nat.lt_add_one_iff.mp (by exact_mod_cast hcast)

/-- A double with a smaller last bit than the double next to a fraction is smaller than that
fraction, and the power of two in between is nearer. -/
theorem Fraction.significand_closest_dyadic {f : Fraction} (hf : 0 < f.den) (hnum : 0 < f.num)
    {y : Float} {k : Dyadic} (hk : decode y = .finite k) :
    |f.significand * (2 : ℚ) ^ f.lastBit - f.value| ≤ |k.magnitude.value - f.value| := by
  rw [Dyadic.value_magnitude]
  rcases lt_or_ge k.exponent f.lastBit with hlower | hhigher
  · obtain ⟨hsignificand, hexponent, -⟩ := decode_bounds hk
    have hhidden := Fraction.hidden_le_value hf hnum (by omega)
    have hbelow : (k.significand : ℚ) * 2 ^ k.exponent ≤ ((2 ^ 52 : Nat) : ℚ) * 2 ^ f.lastBit := by
      have hle : (k.significand : ℚ) ≤ 2 ^ (53 : Int) := by exact_mod_cast hsignificand.le
      calc (k.significand : ℚ) * 2 ^ k.exponent ≤ 2 ^ (53 : Int) * 2 ^ (f.lastBit - 1) :=
            mul_le_mul hle (zpow_le_zpow_right₀ one_le_two (by omega)) (by positivity)
              (by positivity)
        _ = ((2 ^ 52 : Nat) : ℚ) * 2 ^ f.lastBit := by
          rw [zpow_sub_one₀ two_ne_zero]
          norm_num
          ring
    refine (Fraction.significand_closest hf (2 ^ 52)).trans ?_
    rw [abs_of_nonpos (by linarith), abs_of_nonpos (by linarith)]
    linarith
  · obtain ⟨more, hmore⟩ := Int.le.dest hhigher
    have hunits : (k.significand : ℚ) * 2 ^ k.exponent =
        ((k.significand * 2 ^ more : Nat) : ℚ) * 2 ^ f.lastBit := by
      rw [← hmore, zpow_add₀ two_ne_zero, zpow_natCast]
      push_cast
      ring
    rw [hunits]
    exact Fraction.significand_closest hf _

theorem decode_nearest (negative : Bool) {f : Fraction} (hf : 0 < f.den) (hnum : 0 < f.num)
    (h : f.value ≤ largest) : decode (nearest negative f) =
      .finite (dyadicOf negative ((f.lastBit + 1074).toNat * hiddenBit + f.significand)) := by
  have hfields := Fraction.fields_lt hf hnum h
  rw [nearest_eq negative hnum.ne' hfields]
  exact decode_ofFields_eq negative hfields

theorem value_nearest (negative : Bool) {f : Fraction} (hf : 0 < f.den) (hnum : 0 < f.num) :
    (dyadicOf negative ((f.lastBit + 1074).toNat * hiddenBit + f.significand)).magnitude.value =
      f.significand * (2 : ℚ) ^ f.lastBit :=
  value_dyadicOf negative (le_max_left _ _) (Fraction.significand_le_pow hf) fun hlast =>
    Fraction.le_significand hf (Fraction.hidden_le_value hf hnum hlast)

/-- The double next to a fraction, by its significand. -/
theorem exists_nearest (negative : Bool) {f : Fraction} (hf : 0 < f.den)
    (h : f.value ≤ largest) : ∃ d, decode (nearest negative f) = .finite d ∧
      d.negative = negative ∧ d.magnitude.value = f.significand * (2 : ℚ) ^ f.lastBit := by
  rcases Nat.eq_zero_or_pos f.num with hnum | hnum
  · have hzero : f.value = 0 := by simp [Fraction.value, hnum]
    have hround : f.significand = 0 :=
      Nat.le_zero.mp (Fraction.significand_le hf (by rw [hzero]; simp))
    refine ⟨dyadicOf negative 0, ?_, negative_dyadicOf negative 0, ?_⟩
    · unfold nearest
      rw [if_pos hnum]
      exact decode_ofFields_eq negative (by decide)
    · rw [hround, Dyadic.value_magnitude]
      simp [dyadicOf, hiddenBit]
  · exact ⟨_, decode_nearest negative hf hnum h, negative_dyadicOf negative _,
      value_nearest negative hf hnum⟩

/-- No finite double is closer to a fraction than the double next to it. -/
theorem nearest_closest (negative : Bool) {f : Fraction} (hf : 0 < f.den)
    (h : f.value ≤ largest) : ∃ d, decode (nearest negative f) = .finite d ∧
      d.negative = negative ∧ ∀ {y : Float} {k : Dyadic}, decode y = .finite k →
        |d.magnitude.value - f.value| ≤ |k.magnitude.value - f.value| := by
  obtain ⟨d, hd, hsign, hvalue⟩ := exists_nearest negative hf h
  refine ⟨d, hd, hsign, fun {y k} hk => ?_⟩
  rw [hvalue]
  rcases Nat.eq_zero_or_pos f.num with hnum | hnum
  · refine (Fraction.significand_closest hf 0).trans ?_
    simp [Fraction.value, hnum]
  · exact Fraction.significand_closest_dyadic hf hnum hk

/-! ## How close the closest double is -/

/-- The double next to a fraction is off by at most half of its last bit. -/
theorem Fraction.abs_significand_sub_le {f : Fraction} (hf : 0 < f.den) :
    |f.significand * (2 : ℚ) ^ f.lastBit - f.value| ≤ 2 ^ f.lastBit / 2 := by
  have hpow : (0 : ℚ) ≤ 2 ^ f.lastBit := by positivity
  have hscaled := mul_le_mul_of_nonneg_right (Fraction.isNearest_significand hf).near hpow
  rw [f.abs_sub_eq]
  linarith

theorem Fraction.lastBit_le_of_lt {f : Fraction} (hf : 0 < f.den) (hnum : 0 < f.num) {e : Int}
    (h : f.value < 2 ^ e) : f.lastBit ≤ max (-1074) (e - 53) := by
  have hlog := Fraction.log2_lt hf hnum h
  unfold Fraction.lastBit
  omega

/-- So below a power of two it is off by at most half of the last bit there. -/
theorem Fraction.abs_significand_sub_le_of_lt {f : Fraction} (hf : 0 < f.den) {e : Int}
    (he : -1021 ≤ e) (h : f.value < 2 ^ e) :
    |f.significand * (2 : ℚ) ^ f.lastBit - f.value| ≤ 2 ^ (e - 53) / 2 := by
  have hpow : (0 : ℚ) < 2 ^ (e - 53) := by positivity
  rcases Nat.eq_zero_or_pos f.num with hnum | hnum
  · refine (Fraction.significand_closest hf 0).trans ?_
    simp only [Fraction.value, hnum, Nat.cast_zero, zero_mul, zero_div, sub_zero, abs_zero]
    linarith
  · have hlast := Fraction.lastBit_le_of_lt hf hnum h
    have hbit : (2 : ℚ) ^ f.lastBit ≤ 2 ^ (e - 53) :=
      zpow_le_zpow_right₀ one_le_two (by omega)
    refine (Fraction.abs_significand_sub_le hf).trans ?_
    linarith

/-- A whole number is nearest to itself. -/
theorem isNearest_self (n : Nat) : IsNearest n n := ⟨by norm_num, by norm_num⟩

/-- A whole number of fifty-three bits is a double. -/
theorem Fraction.significand_eq {f : Fraction} (hf : 0 < f.den) (hnum : 0 < f.num) {n : Nat}
    (hn : f.value = n) (hlt : n < 2 ^ 53) : f.significand * (2 : ℚ) ^ f.lastBit = n := by
  have hbelow : f.value < 2 ^ (53 : Int) := by
    rw [hn]
    exact_mod_cast hlt
  have hlast := Fraction.lastBit_le_of_lt hf hnum hbelow
  obtain ⟨bits, hbits⟩ := Int.le.dest (show f.lastBit ≤ 0 by omega)
  have hwhole : f.value / 2 ^ f.lastBit = ((n * 2 ^ bits : Nat) : ℚ) := by
    rw [hn, show f.lastBit = -(bits : Int) by omega, zpow_neg, zpow_natCast, div_inv_eq_mul]
    push_cast
    rfl
  have hsame := (Fraction.isNearest_significand hf).unique (hwhole ▸ isNearest_self _)
  rw [hsame, ← hwhole, div_mul_cancel₀ _ (by positivity), hn]

/-- Rounding reaches an even number of last bits where half a last bit is missing. -/
theorem Fraction.even_le_significand_iff {f : Fraction} (hf : 0 < f.den) {k : Nat} (hk : Even k) :
    k * (2 : ℚ) ^ f.lastBit ≤ f.significand * 2 ^ f.lastBit ↔
      (k - 1 / 2) * (2 : ℚ) ^ f.lastBit ≤ f.value := by
  have hpow : (0 : ℚ) < 2 ^ f.lastBit := by positivity
  rw [mul_le_mul_iff_left₀ hpow, Nat.cast_le, ← le_div_iff₀ hpow]
  exact (Fraction.isNearest_significand hf).even_le_iff hk

/-- The double next to a fraction of at least one is off by at most a part in `2 ^ 53`. -/
theorem Fraction.abs_significand_sub_le_div {f : Fraction} (hf : 0 < f.den) (h : 1 ≤ f.value) :
    |f.significand * (2 : ℚ) ^ f.lastBit - f.value| ≤ f.value / 2 ^ 53 := by
  have hnum : 0 < f.num := Fraction.num_pos (zero_lt_one.trans_le h)
  have hlog : 0 ≤ f.log2 := Fraction.le_log2 hf (by rwa [zpow_zero])
  have hlast : f.lastBit = f.log2 - 52 := by
    unfold Fraction.lastBit
    omega
  have hpow : (2 : ℚ) ^ f.lastBit / 2 = 2 ^ f.log2 / 2 ^ 53 := by
    rw [hlast, zpow_sub₀ two_ne_zero]
    norm_num
    ring
  refine (Fraction.abs_significand_sub_le hf).trans ?_
  rw [hpow]
  exact div_le_div_of_nonneg_right (Fraction.log2_le_value hf hnum) (by positivity)

/-! ## Rounding to decimal places -/

/-- The magnitude that a double is rounded to. -/
def Dyadic.decimal (d : Dyadic) (places : Nat) : ℚ := d.units places / 10 ^ places

/-- A rounded double is as close to its decimal as the double itself is. -/
theorem roundTo_closest {x : Float} {d : Dyadic} (h : decode x = .finite d) (places : Nat) :
    ∃ r, decode (roundTo places x) = .finite r ∧ r.negative = d.negative ∧
      |r.magnitude.value - d.decimal places| ≤ |d.magnitude.value - d.decimal places| := by
  have hpow : 0 < Nat.pow 10 places := Nat.pow_pos (by decide)
  have hvalue : (Fraction.mk (d.units places) (Nat.pow 10 places)).value = d.decimal places := by
    change (d.units places : ℚ) / ((10 ^ places : Nat) : ℚ) = _
    rw [Nat.cast_pow, Nat.cast_ofNat]
    rfl
  have hle : (Fraction.mk (d.units places) (Nat.pow 10 places)).value ≤ largest := by
    unfold Fraction.value
    rw [div_le_iff₀ (by exact_mod_cast hpow)]
    exact_mod_cast Dyadic.units_le h places
  obtain ⟨r, hr, hsign, hclosest⟩ := nearest_closest d.negative hpow hle
  rw [hvalue] at hclosest
  exact ⟨r, by rw [roundTo_eq h, hr], hsign, hclosest h⟩

/-- What is as close to the decimal as the double itself has the same nearest decimal: it is a
tie only if the double is one, and then the number of units is even. -/
theorem Dyadic.isNearest_of_closer (d : Dyadic) (places : Nat) {q : ℚ}
    (h : |q - d.decimal places| ≤ |d.magnitude.value - d.decimal places|) :
    IsNearest (q * 10 ^ places) (d.units places) := by
  have hpow : (0 : ℚ) < 10 ^ places := by positivity
  have hscale : ∀ q : ℚ, |q - d.decimal places| * 10 ^ places =
      |(d.units places : ℚ) - q * 10 ^ places| := by
    intro q
    unfold Dyadic.decimal
    rw [abs_sub_comm, ← abs_of_pos hpow, ← abs_mul, abs_of_pos hpow, sub_mul,
      div_mul_cancel₀ _ hpow.ne']
  have hcloser := mul_le_mul_of_nonneg_right h hpow.le
  rw [hscale, hscale] at hcloser
  have hnearest := d.isNearest_units places
  exact ⟨hcloser.trans hnearest.near, fun htie =>
    hnearest.tie (le_antisymm hnearest.near (htie ▸ hcloser))⟩

/-- Doubles that compare equal have the same magnitude, and the same sign unless they are zeros. -/
theorem value_eq_of_beq {x y : Float} {r s : Dyadic} (hx : decode x = .finite r)
    (hy : decode y = .finite s) (h : (x == y) = true) :
    r.magnitude.value = s.magnitude.value ∧ (r.negative = s.negative ∨ r.magnitude.value = 0) := by
  have hnothing : ∀ negative, (Dyadic.mk negative 0 (-1074)).magnitude.value = 0 := by
    intro negative
    rw [Dyadic.value_magnitude, Nat.cast_zero, zero_mul]
  obtain ⟨-, -, rfl | ⟨rfl, rfl⟩ | ⟨rfl, rfl⟩⟩ := Float.beq_iff_ne_nan_and_eq.mp h
  · cases hx.symm.trans hy
    exact ⟨rfl, Or.inl rfl⟩
  · cases hx.symm.trans decode_zero
    cases hy.symm.trans decode_minus_zero
    exact ⟨by rw [hnothing, hnothing], Or.inr (hnothing _)⟩
  · cases hx.symm.trans decode_minus_zero
    cases hy.symm.trans decode_zero
    exact ⟨by rw [hnothing, hnothing], Or.inr (hnothing _)⟩

/-- Doubles round to equal doubles exactly where they round to the same number of units, with the
same sign unless that number is zero. -/
theorem roundTo_beq_iff {x y : Float} {a b : Dyadic} (hx : decode x = .finite a)
    (hy : decode y = .finite b) (places : Nat) :
    (roundTo places x == roundTo places y) = true ↔
      a.units places = b.units places ∧ (a.negative = b.negative ∨ a.units places = 0) := by
  constructor
  · intro h
    obtain ⟨r, hr, hrsign, hrcloser⟩ := roundTo_closest hx places
    obtain ⟨s, hs, hssign, hscloser⟩ := roundTo_closest hy places
    obtain ⟨hvalue, hsign⟩ := value_eq_of_beq hr hs h
    have ha := a.isNearest_of_closer places hrcloser
    have hb := b.isNearest_of_closer places hscloser
    rw [← hvalue] at hb
    rw [hrsign, hssign] at hsign
    refine ⟨ha.unique hb, hsign.imp id fun hzero => ?_⟩
    rw [hzero, zero_mul] at ha
    exact ha.unique ⟨by norm_num, fun _ => Even.zero⟩
  · rintro ⟨hunits, hsign⟩
    exact roundTo_equal hx hy hunits hsign

end PenPlot.Number
