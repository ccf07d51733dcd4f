-- Durations as they are shown. The unit is chosen by the exact duration, and what is left is
-- rounded to the last digit afterwards, so a count may round up to the next larger unit: it does so
-- just below a second, just below a minute and just below each further minute.
import PenPlot.Console.Duration
import PenPlot.Proofs.Number.Product

namespace PenPlot.Console

open Number

/-! ## What is shown -/

/-- A duration as it is shown: in milliseconds, in tenths of a second, or in minutes and tenths of
a second. -/
inductive ShownDuration where
  | milliseconds (n : Nat)
  | tenths (n : Nat)
  | minutes (n rest : Nat)

/-- The text of a duration. -/
def ShownDuration.text : ShownDuration → List Char
  | .milliseconds n => Nat.toDigits 10 n ++ ['m', 's']
  | .tenths n => pointed 1 n ++ ['s']
  | .minutes n rest => Nat.toDigits 10 n ++ ['m', ' '] ++ pointed 1 rest ++ ['s']

/-- The time that is shown, in seconds. -/
def ShownDuration.seconds : ShownDuration → ℚ
  | .milliseconds n => n / 1000
  | .tenths n => n / 10
  | .minutes n rest => 60 * n + rest / 10

/-- One unit of the last digit, in seconds. -/
def ShownDuration.lastDigit : ShownDuration → ℚ
  | .milliseconds _ => 1 / 1000
  | .tenths _ => 1 / 10
  | .minutes _ _ => 1 / 10

/-- Whether no count has reached the next larger unit. -/
def ShownDuration.Canonical : ShownDuration → Prop
  | .milliseconds n => n < 1000
  | .tenths n => n < 600
  | .minutes n rest => 1 ≤ n ∧ rest < 600

/-- Whether the unit is the one for a time in seconds, and no count is past the next larger one. -/
def ShownDuration.Suits (q : ℚ) : ShownDuration → Prop
  | .milliseconds n => q < 1 ∧ n ≤ 1000
  | .tenths n => 1 ≤ q ∧ q < 60 ∧ 10 ≤ n ∧ n ≤ 600
  | .minutes n rest => 60 ≤ q ∧ 1 ≤ n ∧ rest ≤ 600

/-- The part of a time in seconds that is past the last whole minute. -/
def pastMinute (q : ℚ) : ℚ := q - 60 * ⌊q / 60⌋₊

/-- Whether the count of the smaller unit rounds up to the next larger one. Milliseconds are
rounded to a double before. -/
def Carries (q : ℚ) : Prop :=
  if q < 1 then 999.5 - 1 / 2 ^ 44 ≤ 1000 * q else 59.95 ≤ pastMinute q

/-! ## Minutes -/

variable {f : Fraction} {minutes : Nat}

theorem exists_rounded (hf : 0 < f.den) (h : f.value ≤ largest) :
    0 < (rounded f).den ∧ (rounded f).value ≤ largest ∧
      (rounded f).value = f.significand * (2 : ℚ) ^ f.lastBit := by
  obtain ⟨d, hd, -, hvalue⟩ := exists_nearest false hf h
  rw [rounded, hd]
  exact ⟨d.den_pos, magnitude_le_largest hd, hvalue⟩

/-- The nearest whole number, a half going down. -/
def roundHalfDown (f : Fraction) : Nat := (2 * f.num + f.den - 1) / (2 * f.den)

theorem roundHalfDown_near (hf : 0 < f.den) :
    f.value - 1 / 2 ≤ roundHalfDown f ∧ roundHalfDown f < f.value + 1 / 2 := by
  have hden : (0 : ℚ) < f.den := by exact_mod_cast hf
  have hdiv := Nat.div_add_mod (2 * f.num + f.den - 1) (2 * f.den)
  have hrest := Nat.mod_lt (2 * f.num + f.den - 1) (by omega : 0 < 2 * f.den)
  rw [← roundHalfDown] at hdiv
  have hlow : 2 * f.num ≤ 2 * f.den * roundHalfDown f + f.den := by omega
  have hhigh : 2 * f.den * roundHalfDown f < 2 * f.num + f.den := by omega
  have hlow' : 2 * (f.num : ℚ) ≤ 2 * f.den * roundHalfDown f + f.den := by exact_mod_cast hlow
  have hhigh' : 2 * (f.den : ℚ) * roundHalfDown f < 2 * f.num + f.den := by exact_mod_cast hhigh
  have hvalue : f.value * f.den = f.num := div_mul_cancel₀ _ hden.ne'
  constructor
  · refine le_of_mul_le_mul_right ?_ hden
    linarith
  · refine lt_of_mul_lt_mul_right ?_ hden.le
    linarith

/-- The seconds of whole minutes. -/
def secondsOf (minutes : Nat) : Fraction := ⟨60 * minutes, 1⟩

/-- A sixtieth of a fraction. -/
def sixtieth (f : Fraction) : Fraction := ⟨f.num, 60 * f.den⟩

theorem value_secondsOf (minutes : Nat) : (secondsOf minutes).value = (60 * minutes : Nat) := by
  simp [secondsOf, Fraction.value]

theorem value_sixtieth (f : Fraction) : (sixtieth f).value = f.value / 60 := by
  simp only [sixtieth, Fraction.value, Nat.cast_mul, Nat.cast_ofNat]
  rw [mul_comm, div_div]

theorem countedMinutes_eq_roundHalfDown (minutes : Nat) :
    countedMinutes minutes = roundHalfDown (rounded (sixtieth (rounded (secondsOf minutes)))) := rfl

/-- A double keeps count of the whole minutes up to `2 ^ 53` seconds. -/
theorem countedMinutes_eq (hpos : 0 < minutes) (h : 60 * minutes < 2 ^ 53) :
    countedMinutes minutes = minutes := by
  have hmax : 2 ^ 53 ≤ largest := two_pow_le_largest (by decide)
  have hlargest : ((60 * minutes : Nat) : ℚ) ≤ largest := by exact_mod_cast h.le.trans hmax
  have hpos' : (0 : ℚ) < minutes := by exact_mod_cast hpos
  have hwhole := value_secondsOf minutes
  obtain ⟨hden, -, hseconds⟩ := @exists_rounded (secondsOf minutes) Nat.one_pos <| by
    rw [hwhole]
    exact hlargest
  rw [Fraction.significand_eq Nat.one_pos (by simp only [secondsOf]; omega) hwhole h] at hseconds
  have hquotient : (sixtieth (rounded (secondsOf minutes))).value = minutes := by
    rw [value_sixtieth, hseconds]
    push_cast
    ring
  have hden : 0 < (sixtieth (rounded (secondsOf minutes))).den := Nat.mul_pos (by decide) hden
  obtain ⟨hden', -, hminutes⟩ := exists_rounded hden <| by
    rw [hquotient]
    refine le_trans ?_ hlargest
    exact_mod_cast Nat.le_mul_of_pos_left minutes (by decide)
  rw [Fraction.significand_eq hden (Fraction.num_pos (hquotient ▸ hpos')) hquotient (by omega)]
    at hminutes
  obtain ⟨hlow, hhigh⟩ := roundHalfDown_near hden'
  rw [hminutes, ← countedMinutes_eq_roundHalfDown] at hlow hhigh
  have hle : (minutes : ℚ) < countedMinutes minutes + 1 := by linarith
  have hge : (countedMinutes minutes : ℚ) < minutes + 1 := by linarith
  have hle' : minutes < countedMinutes minutes + 1 := by exact_mod_cast hle
  have hge' : countedMinutes minutes < minutes + 1 := by exact_mod_cast hge
  omega

/-- Past that it is off by no more than the rounding of two doubles. -/
theorem countedMinutes_near (h : 2 ^ 53 ≤ 60 * minutes)
    (hlargest : ((60 * minutes : Nat) : ℚ) ≤ largest) :
    |(countedMinutes minutes : ℚ) - minutes| ≤ 1 / 2 + minutes / 2 ^ 51 := by
  have hwhole := value_secondsOf minutes
  have hlarge : (2 : ℚ) ^ 53 ≤ 60 * minutes := by exact_mod_cast h
  push_cast at hwhole hlargest
  obtain ⟨hden, hle, hseconds⟩ := @exists_rounded (secondsOf minutes) Nat.one_pos <| by
    rw [hwhole]
    exact hlargest
  have hoff := @Fraction.abs_significand_sub_le_div (secondsOf minutes) Nat.one_pos <| by
    rw [hwhole]
    linarith
  rw [← hseconds, hwhole] at hoff
  have hquotient := value_sixtieth (rounded (secondsOf minutes))
  have hcounted := countedMinutes_eq_roundHalfDown minutes
  have hden : 0 < (sixtieth (rounded (secondsOf minutes))).den := Nat.mul_pos (by decide) hden
  generalize rounded (secondsOf minutes) = seconds at *
  obtain ⟨hden', -, hminutes⟩ := exists_rounded hden <| by
    rw [hquotient]
    linarith
  obtain ⟨hoffLow, hoffHigh⟩ := abs_le.mp hoff
  have hoff' := Fraction.abs_significand_sub_le_div hden <| by
    rw [hquotient]
    linarith
  rw [← hminutes, hquotient] at hoff'
  obtain ⟨hoffLow', hoffHigh'⟩ := abs_le.mp hoff'
  obtain ⟨hlow, hhigh⟩ := roundHalfDown_near hden'
  rw [← hcounted] at hlow hhigh
  rw [abs_le]
  constructor <;> linarith

/-- A count of minutes in a double does not fall to zero, and differs little from the minutes. -/
theorem countedMinutes_pos_near (hpos : 0 < minutes)
    (hlargest : ((60 * minutes : Nat) : ℚ) ≤ largest) :
    0 < countedMinutes minutes ∧
      |(countedMinutes minutes : ℚ) - minutes| ≤ 1 / 2 + minutes / 2 ^ 51 := by
  rcases Nat.lt_or_ge (60 * minutes) (2 ^ 53) with hsmall | hlarge
  · rw [countedMinutes_eq hpos hsmall, sub_self, abs_zero]
    exact ⟨hpos, by positivity⟩
  · have hnear := countedMinutes_near hlarge hlargest
    refine ⟨?_, hnear⟩
    have hcast : (2 : ℚ) ^ 53 ≤ 60 * minutes := by exact_mod_cast hlarge
    obtain ⟨hlow, -⟩ := abs_le.mp hnear
    have hcounted : (0 : ℚ) < countedMinutes minutes := by linarith
    exact_mod_cast hcounted

/-! ## What is shown of a time -/

variable {x : Float} {d : Number.Dyadic}

/-- A thousand as a double. -/
def thousand : Number.Dyadic := ⟨false, 1000 * 2 ^ 43, -43⟩

theorem decode_thousand : decode 1000 = .finite thousand := by decide

theorem value_thousand : thousand.magnitude.value = 1000 := by
  rw [Dyadic.value_magnitude]
  norm_num [thousand]

/-- Below `2 ^ 10` a number is rounded to forty-three bits after the point or more. -/
theorem abs_significand_sub_le_of_lt_two_pow (hf : 0 < f.den) (h : f.value < 2 ^ (10 : Int)) :
    |f.significand * (2 : ℚ) ^ f.lastBit - f.value| ≤ 1 / 2 ^ 44 := by
  have hoff := Fraction.abs_significand_sub_le_of_lt hf (by decide) h
  rwa [show (2 : ℚ) ^ ((10 : Int) - 53) / 2 = 1 / 2 ^ 44 by norm_num] at hoff

/-- So half a millisecond below a second is reached by all that is no further below it than half
of the last bit. -/
theorem le_significand_iff_of_lt_two_pow (hf : 0 < f.den) (h : f.value < 2 ^ (10 : Int)) :
    999.5 ≤ f.significand * (2 : ℚ) ^ f.lastBit ↔ 999.5 - 1 / 2 ^ 44 ≤ f.value := by
  rcases lt_or_ge f.value (2 ^ (9 : Int)) with hlow | hhigh
  · -- Far below, neither holds.
    obtain ⟨-, hnear⟩ := abs_le.mp (abs_significand_sub_le_of_lt_two_pow hf h)
    norm_num at hlow hnear ⊢
    constructor <;> intro hreach <;> linarith
  · have hlast : f.lastBit = -43 := by
      have hlog := Fraction.le_log2 hf hhigh
      have hlog' := Fraction.log2_lt hf
        (Fraction.num_pos (lt_of_lt_of_le (by positivity) hhigh)) h
      unfold Fraction.lastBit
      omega
    have hreach := @Fraction.even_le_significand_iff _ hf (1999 * 2 ^ 42) (by decide)
    rw [hlast] at hreach ⊢
    norm_num at hreach ⊢
    exact hreach

/-- Below a second, the thousandfold is rounded to a double with forty-three bits after the point,
and so it reaches half a millisecond below a second a little too soon. -/
theorem exists_thousandfold (h : decode x = .finite d) (hlt : d.magnitude.value < 1) :
    ∃ p, decode (x * 1000) = .finite p ∧ p.negative = d.negative ∧
      |p.magnitude.value - 1000 * d.magnitude.value| ≤ 1 / 2 ^ 44 ∧
      (999.5 ≤ p.magnitude.value ↔ 999.5 - 1 / 2 ^ 44 ≤ 1000 * d.magnitude.value) := by
  have hproduct := mul_eq_nearest h decode_thousand
  have hden := (d.times thousand).den_pos
  have hvalue : (d.times thousand).magnitude.value = 1000 * d.magnitude.value := by
    rw [value_times, value_thousand, mul_comm]
  have hsign : (d.times thousand).negative = d.negative := Bool.bne_false _
  rw [hsign] at hproduct
  generalize (d.times thousand).magnitude = f at *
  have hbelow : f.value < 2 ^ (10 : Int) := by
    rw [hvalue]
    norm_num
    linarith
  have hlargest : f.value ≤ largest := by
    have hmax : 2 ^ 10 ≤ largest := two_pow_le_largest (by decide)
    exact hbelow.le.trans (by exact_mod_cast hmax)
  obtain ⟨p, hp, hnegative, hrounded⟩ := exists_nearest d.negative hden hlargest
  rw [← hproduct] at hp
  have hoff := abs_significand_sub_le_of_lt_two_pow hden hbelow
  have hreach := le_significand_iff_of_lt_two_pow hden hbelow
  rw [← hrounded, hvalue] at hoff hreach
  exact ⟨p, hp, hnegative, hoff, hreach⟩

theorem signed_append (negative : Bool) (digits more : List Char) :
    signed negative digits ++ more = signed negative (digits ++ more) := by
  cases negative <;> rfl

theorem fixed_append (h : decode x = .finite d) (places : Nat) (more : String) :
    fixed places x ++ more =
      String.ofList (signed d.negative (pointed places (d.units places) ++ more.toList)) := by
  rw [← String.toList_inj, String.toList_append, toList_fixed h, String.toList_ofList,
    signed_append]

theorem ofList_minutes (n rest : Nat) :
    toString n ++ "m " ++ String.ofList (pointed 1 rest) ++ "s" =
      String.ofList (ShownDuration.minutes n rest).text := by
  change String.ofList (Nat.toDigits 10 n) ++ _ ++ _ ++ _ = _
  rw [← String.toList_inj]
  simp only [String.toList_append, String.toList_ofList, ShownDuration.text]
  rfl

/-! ## The units -/

/-- How what is shown stands to the time in seconds. -/
structure ShownDuration.Shows (shown : ShownDuration) (q : ℚ) : Prop where
  suits : shown.Suits q
  canonical_iff : shown.Canonical ↔ ¬ Carries q
  /-- Half a unit of the last digit is what it may be off. -/
  near : 1 ≤ q → q < 2 ^ 53 → |shown.seconds - q| ≤ shown.lastDigit / 2
  /-- The thousandfold is rounded before. -/
  near_milliseconds : q < 1 → |shown.seconds - q| ≤ shown.lastDigit * (1 / 2 + 1 / 2 ^ 44)
  /-- The minutes are counted in a double. -/
  near_minutes : 2 ^ 53 ≤ q → |shown.seconds - q| ≤ 31 + q / 2 ^ 51

variable {q : ℚ} {n : Nat}

theorem shows_milliseconds (hq : q < 1) {r : ℚ} (h : IsNearest r n)
    (hoff : |r - 1000 * q| ≤ 1 / 2 ^ 44) (hr : 999.5 ≤ r ↔ 999.5 - 1 / 2 ^ 44 ≤ 1000 * q) :
    (ShownDuration.milliseconds n).Shows q where
  suits := by
    obtain ⟨-, habove⟩ := abs_le.mp h.near
    obtain ⟨-, hhigh⟩ := abs_le.mp hoff
    have hcast : (n : ℚ) < 1000 + 1 := by linarith
    exact ⟨hq, Nat.lt_add_one_iff.mp (by exact_mod_cast hcast)⟩
  canonical_iff := by
    have hreach := h.even_le_iff (by decide : Even 1000)
    rw [show ((1000 : Nat) : ℚ) - 1 / 2 = 999.5 by norm_num, hr] at hreach
    rw [Carries, if_pos hq, ← hreach, not_le]
    rfl
  near := fun hle => absurd hq (not_lt.mpr hle)
  near_milliseconds := by
    intro _
    obtain ⟨hbelow, habove⟩ := abs_le.mp h.near
    obtain ⟨hlow, hhigh⟩ := abs_le.mp hoff
    simp only [ShownDuration.seconds, ShownDuration.lastDigit, abs_le]
    constructor <;> linarith
  near_minutes := by
    intro hle
    linarith

theorem pastMinute_of_lt (hq : q < 60) : pastMinute q = q := by
  rw [pastMinute, Nat.floor_eq_zero.mpr (by linarith), Nat.cast_zero, mul_zero, sub_zero]

theorem shows_tenths (hlow : 1 ≤ q) (hhigh : q < 60) (h : IsNearest (q * 10) n) :
    (ShownDuration.tenths n).Shows q where
  suits := by
    obtain ⟨hbelow, habove⟩ := abs_le.mp h.near
    have hten : (10 : ℚ) < n + 1 := by linarith
    have hsixty : (n : ℚ) < 600 + 1 := by linarith
    exact ⟨hlow, hhigh, Nat.lt_add_one_iff.mp (by exact_mod_cast hten),
      Nat.lt_add_one_iff.mp (by exact_mod_cast hsixty)⟩
  canonical_iff := by
    have hreach := h.even_le_iff (by decide : Even 600)
    rw [Carries, if_neg (not_lt.mpr hlow), pastMinute_of_lt hhigh, ShownDuration.Canonical,
      ← not_le, hreach, not_iff_not]
    norm_num
    constructor <;> intro hle <;> linarith
  near := by
    intro _ _
    obtain ⟨hbelow, habove⟩ := abs_le.mp h.near
    simp only [ShownDuration.seconds, ShownDuration.lastDigit, abs_le]
    constructor <;> linarith
  near_milliseconds := fun hlt => absurd hlow (not_le.mpr hlt)
  near_minutes := by
    intro hle
    linarith

theorem pastMinute_nonneg (hq : 0 ≤ q) : 0 ≤ pastMinute q := by
  have hfloor := Nat.floor_le (div_nonneg hq (by norm_num : (0 : ℚ) ≤ 60))
  unfold pastMinute
  linarith

theorem pastMinute_lt (q : ℚ) : pastMinute q < 60 := by
  have hfloor := Nat.lt_floor_add_one (q / 60)
  unfold pastMinute
  linarith

theorem shows_minutes (hq : 60 ≤ q) (hlargest : q ≤ largest)
    (h : IsNearest (10 * pastMinute q) n) :
    (ShownDuration.minutes (countedMinutes ⌊q / 60⌋₊) n).Shows q := by
  have hone : ¬ q < 1 := by linarith
  have hpast := pastMinute_nonneg (by linarith : 0 ≤ q)
  have hminute := pastMinute_lt q
  have hsplit : q = 60 * ⌊q / 60⌋₊ + pastMinute q := (add_sub_cancel _ _).symm
  have hpos : 0 < ⌊q / 60⌋₊ := Nat.floor_pos.mpr (by linarith)
  have hcarries : Carries q ↔ 59.95 ≤ pastMinute q := by rw [Carries, if_neg hone]
  generalize pastMinute q = past at *
  generalize ⌊q / 60⌋₊ = minutes at *
  obtain ⟨hcounted, hoff⟩ := countedMinutes_pos_near hpos <| by
    push_cast
    linarith
  obtain ⟨hbelow, habove⟩ := abs_le.mp h.near
  refine ⟨⟨hq, hcounted, ?_⟩, ?_, ?_, fun hlt => absurd hlt hone, ?_⟩
  · have hsixty : (n : ℚ) < 600 + 1 := by linarith
    exact Nat.lt_add_one_iff.mp (by exact_mod_cast hsixty)
  · have hreach := h.even_le_iff (by decide : Even 600)
    rw [hcarries, ShownDuration.Canonical, and_iff_right (Nat.succ_le_of_lt hcounted), ← not_le,
      hreach, not_iff_not]
    norm_num
    constructor <;> intro hle <;> linarith
  · intro _ hlt
    have hexact := countedMinutes_eq hpos <| by
      have hcast : ((60 * minutes : Nat) : ℚ) < 2 ^ 53 := by
        push_cast
        linarith
      exact_mod_cast hcast
    simp only [ShownDuration.seconds, ShownDuration.lastDigit, hexact, abs_le]
    constructor <;> linarith
  · intro _
    obtain ⟨hless, hmore⟩ := abs_le.mp hoff
    simp only [ShownDuration.seconds, abs_le]
    constructor <;> linarith

/-! ## The duration -/

/-- The minutes are the whole ones, as a double counts them, and the tenths are nearest to what is
left of the time. -/
theorem minutesAndTenths_spec (d : Number.Dyadic) :
    (minutesAndTenths d).1 = countedMinutes ⌊d.magnitude.value / 60⌋₊ ∧
      IsNearest (10 * pastMinute d.magnitude.value) (minutesAndTenths d).2 := by
  have hden := d.den_pos
  unfold minutesAndTenths
  generalize d.magnitude = f at *
  have hfloor : ⌊f.value / 60⌋₊ = f.num / (60 * f.den) := by
    rw [← Nat.floor_div_eq_div (K := ℚ), Fraction.value, div_div, Nat.cast_mul, Nat.cast_ofNat,
      mul_comm (f.den : ℚ)]
  refine ⟨by rw [hfloor], ?_⟩
  have hnearest := isNearest_roundHalfEven (10 * (f.num % (60 * f.den))) hden
  have hcast : (0 : ℚ) < f.den := by exact_mod_cast hden
  have hrest : ((10 * (f.num % (60 * f.den)) : Nat) : ℚ) / f.den = 10 * pastMinute f.value := by
    have hdiv : 60 * (f.den : ℚ) * (f.num / (60 * f.den) : Nat) + (f.num % (60 * f.den) : Nat) =
        f.num := by exact_mod_cast Nat.div_add_mod f.num (60 * f.den)
    rw [pastMinute, hfloor, div_eq_iff hcast.ne', Fraction.value]
    field_simp
    push_cast
    linarith
  rwa [hrest] at hnearest

/-- A double that is not below zero has the value of its magnitude, also the negative zero. -/
theorem value_eq_magnitude (h : decode x = .finite d) (hx : 0 ≤ x) :
    d.value = d.magnitude.value ∧ (d.negative = true → d.magnitude.value = 0) := by
  have hvalue := (le_iff decode_zero h).mp hx
  have hmagnitude : 0 ≤ d.magnitude.value := by
    rw [Dyadic.value_magnitude]
    positivity
  rw [Number.Dyadic.value, Number.Dyadic.value, Dyadic.magnitude_eq_zero rfl] at hvalue
  rw [Number.Dyadic.value]
  cases hnegative : d.negative with
  | false => exact ⟨rfl, fun h => absurd h Bool.false_ne_true⟩
  | true =>
    rw [hnegative] at hvalue
    simp only [withSign, Bool.false_eq_true, if_false, if_true] at hvalue ⊢
    exact ⟨by linarith, fun _ => by linarith⟩

/-- Every finite duration that is not below zero is shown in the unit that suits it. No count
reaches the next larger unit, unless the duration is one of those that carry, and what is shown is
off by at most half a unit of the last digit, up to `2 ^ 53` seconds and from a second on: below it
the thousandfold is rounded to a double first. A sign is only shown before a zero. -/
theorem a_duration_is_shown_to_its_last_digit (hfinite : x.isFinite = true) (hx : 0 ≤ x) :
    ∃ (d : Number.Dyadic) (shown : ShownDuration), decode x = .finite d ∧
      (d.negative = true → d.magnitude.value = 0) ∧
      duration x = .ok (String.ofList (signed d.negative shown.text)) ∧
      shown.Shows d.magnitude.value := by
  have hdecodeOne : decode 1 = .finite ⟨false, 2 ^ 52, -52⟩ := by decide
  have hdecodeSixty : decode 60 = .finite ⟨false, 60 * 2 ^ 47, -47⟩ := by decide
  obtain ⟨d, hd⟩ := (isFinite_iff x).mp hfinite
  obtain ⟨hvalue, hnegative⟩ := value_eq_magnitude hd hx
  have hone := lt_iff hd hdecodeOne
  have hsixty := lt_iff hd hdecodeSixty
  rw [hvalue, Number.Dyadic.value, Dyadic.value_magnitude ⟨false, 2 ^ 52, -52⟩] at hone
  rw [hvalue, Number.Dyadic.value, Dyadic.value_magnitude ⟨false, 60 * 2 ^ 47, -47⟩] at hsixty
  norm_num [withSign] at hone hsixty
  unfold duration
  by_cases hsecond : d.magnitude.value < 1
  · obtain ⟨p, hp, hsign, hoff, hreach⟩ := exists_thousandfold hd hsecond
    have hnearest := p.isNearest_units 0
    rw [pow_zero, mul_one] at hnearest
    refine ⟨d, .milliseconds (p.units 0), hd, hnegative, ?_,
      shows_milliseconds hsecond hnearest hoff hreach⟩
    rw [if_pos (hone.mpr hsecond), fixed_append hp, hsign]
    rfl
  · rw [if_neg (mt hone.mp hsecond)]
    have hsecond := not_lt.mp hsecond
    by_cases hminute : d.magnitude.value < 60
    · have hnearest := d.isNearest_units 1
      rw [pow_one] at hnearest
      refine ⟨d, .tenths (d.units 1), hd, hnegative, ?_, shows_tenths hsecond hminute hnearest⟩
      rw [if_pos (hsixty.mpr hminute), fixed_append hd]
      rfl
    · have hsign : d.negative = false :=
        Bool.eq_false_iff.mpr fun h => by linarith [hnegative h]
      obtain ⟨hminutes, htenths⟩ := minutesAndTenths_spec d
      refine ⟨d, .minutes (minutesAndTenths d).1 (minutesAndTenths d).2, hd, hnegative, ?_, ?_⟩
      · rw [if_neg (mt hsixty.mp hminute), hd, hsign]
        exact congrArg Except.ok (ofList_minutes _ _)
      · rw [hminutes]
        exact shows_minutes (not_lt.mp hminute) (magnitude_le_largest hd) htenths

theorem a_minute_and_a_half_is_shown :
    (90.25 : Float).isFinite = true ∧ (0 : Float) ≤ 90.25 ∧ duration 90.25 = .ok "1m 30.2s" ∧
      ∃ (d : Number.Dyadic) (shown : ShownDuration), decode 90.25 = .finite d ∧
        (d.negative = true → d.magnitude.value = 0) ∧
        duration 90.25 = .ok (String.ofList (signed d.negative shown.text)) ∧
        shown.Shows d.magnitude.value :=
  have hfinite : (90.25 : Float).isFinite = true := by decide
  have hx : (0 : Float) ≤ 90.25 := by decide
  ⟨hfinite, hx, by decide, a_duration_is_shown_to_its_last_digit hfinite hx⟩

/-- Just below a second a thousand milliseconds are shown, which is no canonical form. -/
theorem a_thousand_milliseconds_are_shown :
    (0.9996 : Float).isFinite = true ∧ (0 : Float) ≤ 0.9996 ∧ duration 0.9996 = .ok "1000ms" ∧
      ∀ (negative : Bool) (shown : ShownDuration),
        duration 0.9996 = .ok (String.ofList (signed negative shown.text)) →
          ¬ shown.Canonical := by
  have hshown : duration 0.9996 = .ok "1000ms" := by decide
  refine ⟨by decide, by decide, hshown, fun negative shown h hcanonical => ?_⟩
  rw [hshown, Except.ok.injEq] at h
  replace h : "1000ms".toList = signed negative shown.text := by rw [h, String.toList_ofList]
  have hpoint : ∀ n, '.' ∈ pointed 1 n := fun n => by simp [pointed]
  have hnone : '.' ∉ signed negative shown.text := by
    rw [← h]
    decide
  cases negative with
  | true => exact absurd (List.cons.inj h).1 (by decide)
  | false =>
    cases shown with
    | milliseconds n =>
      have hdigits : Nat.toDigits 10 1000 = Nat.toDigits 10 n := List.append_cancel_right h
      have hn := congrArg ofDigits hdigits
      rw [ofDigits_toDigits, ofDigits_toDigits] at hn
      exact absurd hcanonical (not_lt.mpr hn.le)
    | tenths n => exact hnone (List.mem_append_left _ (hpoint n))
    | minutes n rest =>
      exact hnone (List.mem_append_left _ (List.mem_append_right _ (hpoint rest)))

example : duration 59.96 = .ok "60.0s" := by decide

example : duration 119.97 = .ok "1m 60.0s" := by decide

end PenPlot.Console
