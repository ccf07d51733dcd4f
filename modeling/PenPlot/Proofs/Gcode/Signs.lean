-- What a position prints tells where a machine takes it to be. Two finite positions are the same
-- for a machine exactly when it prints them alike, if the minus is left out that stands before a
-- coordinate that prints as zero.
import PenPlot.Proofs.Gcode.Lines
import PenPlot.Proofs.Number.Closest
import PenPlot.Proofs.Toolpath.Finite

namespace PenPlot.Gcode

open Toolpath
open PenPlot.Number (decode fixed pointed signed)

/-! ## Texts without the signs of zeros -/

/-- Whether a character belongs to the digits of a number. -/
def isNumeral (c : Char) : Bool := c.isDigit || c == '.'

/-- Whether a text starts with a number that is zero: none of its digits is another one. -/
def startsWithZero (text : List Char) : Bool :=
  let number := text.takeWhile isNumeral
  !number.isEmpty && number.all fun c => c == '0' || c == '.'

/-- A text without the minus of each number that is zero. -/
def withoutZeroSigns : List Char → List Char
  | [] => []
  | c :: rest =>
    if c = '-' ∧ startsWithZero rest = true then withoutZeroSigns rest
    else c :: withoutZeroSigns rest

theorem withoutZeroSigns_append {cs : List Char} (h : '-' ∉ cs) (rest : List Char) :
    withoutZeroSigns (cs ++ rest) = cs ++ withoutZeroSigns rest := by
  induction cs with
  | nil => rfl
  | cons c more ih =>
    obtain ⟨hc, hmore⟩ := not_or.mp (mt List.mem_cons.mpr h)
    rw [List.cons_append, withoutZeroSigns, if_neg fun hminus => hc hminus.1.symm, ih hmore,
      List.cons_append]

/-! ## Digits of zero -/

theorem eq_zero_of_digits {n : Nat} (h : ∀ c ∈ Nat.toDigits 10 n, c = '0') : n = 0 := by
  have hn := Number.ofDigits_toDigits n
  rw [List.eq_replicate_of_mem h, Number.ofDigits_eq, Nat.ofDigitChars_replicate_zero,
    Nat.mul_zero] at hn
  exact hn.symm

theorem eq_zero_of_digit {c : Char} (hdigit : c.isDigit = true)
    (h : (c == '0' || c == '.') = true) : c = '0' := by
  rcases Bool.or_eq_true_iff.mp h with hzero | hpoint
  · exact eq_of_beq hzero
  · rw [eq_of_beq hpoint] at hdigit
    exact absurd hdigit (by decide)

/-- A count of units is zero exactly when no digit of its text is another one. -/
theorem all_zero_pointed_iff (places units : Nat) :
    ((pointed places units).all fun c => c == '0' || c == '.') = true ↔ units = 0 := by
  have hdigit : ∀ n, ∀ c ∈ Nat.toDigits 10 n, c.isDigit = true := fun n =>
    List.all_eq_true.mp (Number.all_isDigit_toDigits n)
  constructor
  · intro h
    have hall := List.all_eq_true.mp h
    unfold pointed at hall
    by_cases hp : places = 0
    · rw [if_pos hp] at hall
      exact eq_zero_of_digits fun c hc => eq_zero_of_digit (hdigit units c hc) (hall c hc)
    · rw [if_neg hp] at hall
      have hwhole : units / Nat.pow 10 places = 0 := eq_zero_of_digits fun c hc =>
        eq_zero_of_digit (hdigit _ c hc) (hall c (List.mem_append_left _ hc))
      have htail : units % Nat.pow 10 places = 0 := eq_zero_of_digits fun c hc =>
        eq_zero_of_digit (hdigit _ c hc) (hall c (List.mem_append_right _
          (List.mem_cons_of_mem _ (List.mem_append_right _ hc))))
      rw [← Nat.div_add_mod units (Nat.pow 10 places), hwhole, htail, Nat.mul_zero]
  · rintro rfl
    unfold pointed
    by_cases hp : places = 0
    · rw [if_pos hp]
      decide
    · rw [if_neg hp, Nat.zero_div, Nat.zero_mod]
      simp [List.all_replicate]

/-! ## Printed positions -/

theorem not_mem_pointed {c : Char} (hdigit : c.isDigit = false) (hpoint : c ≠ '.')
    (places units : Nat) : c ∉ pointed places units := by
  intro hmem
  rcases Number.mem_pointed hmem with h | h
  · rw [hdigit] at h
    cases h
  · exact hpoint h

theorem startsWithZero_pointed (places units : Nat) {rest : List Char}
    (hrest : rest.head?.all fun c => !isNumeral c) :
    startsWithZero (pointed places units ++ rest) = true ↔ units = 0 := by
  have hnumerals : ∀ c ∈ pointed places units, isNumeral c = true := by
    intro c hc
    unfold isNumeral
    rcases Number.mem_pointed hc with hdigit | rfl
    · rw [hdigit, Bool.true_or]
    · rfl
  have hstop : rest.takeWhile isNumeral = [] := by
    cases rest with
    | nil => rfl
    | cons c more => exact List.takeWhile_cons_of_neg (by simpa using hrest)
  have hsome : (pointed places units).isEmpty = false := by
    unfold pointed
    split <;> simp [Nat.toDigits_ne_nil]
  unfold startsWithZero
  simp only [List.takeWhile_append_of_pos hnumerals, hstop, List.append_nil, hsome, Bool.not_false,
    Bool.true_and, all_zero_pointed_iff]

/-- A number that is printed keeps its sign unless it is zero. -/
theorem withoutZeroSigns_signed (negative : Bool) (places units : Nat) {rest : List Char}
    (hrest : rest.head?.all fun c => !isNumeral c) :
    withoutZeroSigns (signed negative (pointed places units) ++ rest) =
      signed (negative && units != 0) (pointed places units) ++ withoutZeroSigns rest := by
  have hminus : '-' ∉ pointed places units := not_mem_pointed (by decide) (by decide) _ _
  cases negative with
  | false => exact withoutZeroSigns_append hminus rest
  | true =>
    have hzero := startsWithZero_pointed places units hrest
    change withoutZeroSigns ('-' :: (pointed places units ++ rest)) = _
    rw [withoutZeroSigns]
    by_cases hunits : units = 0
    · rw [if_pos ⟨rfl, hzero.mpr hunits⟩, withoutZeroSigns_append hminus, hunits]
      rfl
    · rw [if_neg fun h => hunits (hzero.mp h.2), withoutZeroSigns_append hminus,
        bne_iff_ne.mpr hunits]
      rfl

example : withoutZeroSigns "X-0.00Y-1.50".toList = "X0.00Y-1.50".toList := by decide

/-- The text of a double, without the minus of a zero. -/
def plainText (places : Nat) (d : Number.Dyadic) : List Char :=
  signed (d.negative && d.units places != 0) (pointed places (d.units places))

theorem withoutZeroSigns_fixed {x : Float} {d : Number.Dyadic} (h : decode x = .finite d)
    (places : Nat) (rest : List Char) (hrest : rest.head?.all fun c => !isNumeral c) :
    withoutZeroSigns ((fixed places x).toList ++ rest) =
      plainText places d ++ withoutZeroSigns rest := by
  rw [Number.toList_fixed h]
  exact withoutZeroSigns_signed _ _ _ hrest

theorem withoutZeroSigns_positionWords (m : Settings.Machine) {p : Position} {a b : Number.Dyadic}
    (ha : decode p.x = .finite a) (hb : decode p.y = .finite b) :
    withoutZeroSigns (positionWords m p).toList =
      'X' :: (plainText m.coordinatePrecision.value a ++
        'Y' :: plainText m.coordinatePrecision.value b) := by
  have hy := withoutZeroSigns_fixed hb m.coordinatePrecision.value [] rfl
  rw [List.append_nil, withoutZeroSigns, List.append_nil] at hy
  rw [toList_positionWords, withoutZeroSigns, if_neg (by simp), withoutZeroSigns_fixed ha _ _ rfl,
    withoutZeroSigns, if_neg (by simp), hy]

theorem not_mem_plainText (places : Nat) (d : Number.Dyadic) : 'Y' ∉ plainText places d := by
  have hpointed : 'Y' ∉ pointed places (d.units places) :=
    not_mem_pointed (by decide) (by decide) _ _
  unfold plainText signed
  split
  · exact fun hmem => hpointed ((List.mem_cons.mp hmem).resolve_left (by decide))
  · exact hpointed

theorem plainText_eq_iff (places : Nat) (a b : Number.Dyadic) :
    plainText places a = plainText places b ↔
      a.units places = b.units places ∧ (a.negative = b.negative ∨ a.units places = 0) := by
  unfold plainText
  constructor
  · intro h
    have hread := congrArg Number.takeSign h
    rw [Number.takeSign_pointed, Number.takeSign_pointed, Prod.mk.injEq] at hread
    obtain ⟨hsign, hdigits⟩ := hread
    have hunits := Number.pointed_inj hdigits
    refine ⟨hunits, ?_⟩
    by_cases hzero : a.units places = 0
    · exact Or.inr hzero
    · rw [← hunits, bne_iff_ne.mpr hzero, Bool.and_true, Bool.and_true] at hsign
      exact Or.inl hsign
  · rintro ⟨hunits, hsign | hzero⟩
    · rw [hunits, hsign]
    · rw [← hunits, hzero, bne_self_eq_false, Bool.and_false, Bool.and_false]

/-! ## The law -/

/-- Two finite positions are the same for a machine exactly when it prints them alike, up to the
sign of a coordinate that prints as zero: at every precision, and however large or small the
coordinates are, the doubles that it compares tell apart what the decimals tell apart. -/
theorem the_same_positions_print_alike (m : Settings.Machine) (p q : Position)
    (hp : p.isFinite = true) (hq : q.isFinite = true) :
    same m p q = true ↔ withoutZeroSigns (positionWords m p).toList =
      withoutZeroSigns (positionWords m q).toList := by
  obtain ⟨hpx, hpy⟩ := isFinite_point_iff.mp hp
  obtain ⟨hqx, hqy⟩ := isFinite_point_iff.mp hq
  obtain ⟨a, ha⟩ := (Number.isFinite_iff _).mp hpx
  obtain ⟨b, hb⟩ := (Number.isFinite_iff _).mp hpy
  obtain ⟨c, hc⟩ := (Number.isFinite_iff _).mp hqx
  obtain ⟨d, hd⟩ := (Number.isFinite_iff _).mp hqy
  rw [same_iff, withoutZeroSigns_positionWords m ha hb, withoutZeroSigns_positionWords m hc hd,
    List.cons_inj_right, List.append_cons_inj_of_notMem (not_mem_plainText _ a)
      (not_mem_plainText _ b), plainText_eq_iff, plainText_eq_iff, eq_self_iff_true, true_and]
  exact and_congr (Number.roundTo_beq_iff ha hc _) (Number.roundTo_beq_iff hb hd _)

/-- Two places that lie where doubles are almost as far apart as the last of six decimals, and
print with zeros of different signs. -/
theorem places_half_a_millionth_apart_print_alike :
    let m : Settings.Machine :=
      { Settings.Machine.standard with coordinatePrecision := ⟨6, by decide, by decide⟩ }
    let p : Position := ⟨4294967295.0000005, -0.0000004⟩
    let q : Position := ⟨4294967295, 0⟩
    p.isFinite = true ∧ q.isFinite = true ∧ positionWords m p ≠ positionWords m q ∧
      same m p q = true := by
  intro m p q
  have hp : p.isFinite = true := by decide +kernel
  have hq : q.isFinite = true := by decide +kernel
  refine ⟨hp, hq, by decide +kernel, ?_⟩
  rw [the_same_positions_print_alike m p q hp hq]
  decide +kernel

end PenPlot.Gcode
