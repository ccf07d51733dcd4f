-- Decimal texts, read back. A printed coordinate is a decimal number exactly when
-- the double is finite, and then it is the value that the double was rounded to,
-- whichever way a zero is signed.
import Mathlib.Data.List.TakeWhile
import PenPlot.Number.Reading
import PenPlot.Proofs.Number.Rounding

namespace PenPlot.Number

/-! ## Reading -/

/-- Reads digits, perhaps with a point and more digits, as a number. -/
def unsignedDecimal? (cs : List Char) : Option ℚ :=
  let whole := cs.takeWhile Char.isDigit
  match cs.dropWhile Char.isDigit with
  | [] => if whole ≠ [] then some (ofDigits whole) else none
  | '.' :: tenths =>
    if whole ≠ [] ∧ tenths ≠ [] ∧ tenths.all Char.isDigit then
      some (ofDigits whole + ofDigits tenths / 10 ^ tenths.length)
    else none
  | _ => none

/-- A number with a sign in front of it. -/
def withSign (negative : Bool) (q : ℚ) : ℚ := if negative then -q else q

/-- Reads a finite decimal number: an optional sign, digits, and perhaps a point with more
digits. -/
def decimal? (cs : List Char) : Option ℚ :=
  (unsignedDecimal? (takeSign cs).2).map (withSign (takeSign cs).1)

/-! ## Digits -/

theorem ofDigits_eq (cs : List Char) : ofDigits cs = Nat.ofDigitChars 10 cs 0 :=
  Nat.ofDigitChars_eq_foldl.symm

theorem ofDigits_toDigits (n : Nat) : ofDigits (Nat.toDigits 10 n) = n := by
  rw [ofDigits_eq, Nat.ofDigitChars_ten_toDigits]

theorem all_isDigit_toDigits (n : Nat) : (Nat.toDigits 10 n).all Char.isDigit = true := by
  rw [List.all_eq_true]
  intro c hc
  exact Nat.isDigit_of_mem_toDigits (by decide) (by decide) hc

/-- The digits of a number, brought to a length by zeros in front. -/
def padded (length n : Nat) : List Char :=
  List.replicate (length - (Nat.toDigits 10 n).length) '0' ++ Nat.toDigits 10 n

theorem ofDigits_padded (length n : Nat) : ofDigits (padded length n) = n := by
  unfold padded
  rw [ofDigits_eq, Nat.ofDigitChars_append, Nat.ofDigitChars_replicate_zero, Nat.mul_zero,
    Nat.ofDigitChars_ten_toDigits]

theorem all_isDigit_padded (length n : Nat) : (padded length n).all Char.isDigit = true := by
  unfold padded
  rw [List.all_append, all_isDigit_toDigits, Bool.and_true, List.all_replicate]
  simp

theorem length_padded {length n : Nat} (hlength : 0 < length) (hn : n < 10 ^ length) :
    (padded length n).length = length := by
  have hle := (Nat.length_toDigits_le_iff (by decide) hlength).mpr hn
  unfold padded
  rw [List.length_append, List.length_replicate]
  omega

/-! ## Texts with a fixed count of places -/

theorem unsignedDecimal?_whole (n : Nat) : unsignedDecimal? (Nat.toDigits 10 n) = some (n : ℚ) := by
  have hall := List.all_eq_true.mp (all_isDigit_toDigits n)
  unfold unsignedDecimal?
  simp only [List.takeWhile_eq_self_iff.mpr hall, List.dropWhile_eq_nil_iff.mpr hall]
  rw [if_pos Nat.toDigits_ne_nil, ofDigits_toDigits]

theorem unsignedDecimal?_tenths (n : Nat) {tenths : List Char} (hne : tenths ≠ [])
    (hall : tenths.all Char.isDigit = true) :
    unsignedDecimal? (Nat.toDigits 10 n ++ '.' :: tenths) =
      some ((n : ℚ) + ofDigits tenths / 10 ^ tenths.length) := by
  have hdigits := List.all_eq_true.mp (all_isDigit_toDigits n)
  have htake : (Nat.toDigits 10 n ++ '.' :: tenths).takeWhile Char.isDigit = Nat.toDigits 10 n := by
    rw [List.takeWhile_append_of_pos hdigits]
    simp
  have hdrop : (Nat.toDigits 10 n ++ '.' :: tenths).dropWhile Char.isDigit = '.' :: tenths := by
    rw [List.dropWhile_append_of_pos hdigits]
    simp
  unfold unsignedDecimal?
  simp only [htake, hdrop]
  rw [if_pos ⟨Nat.toDigits_ne_nil, hne, hall⟩, ofDigits_toDigits]

/-- A count of units with its point is read as that count of units. -/
theorem unsignedDecimal?_pointed (places units : Nat) :
    unsignedDecimal? (pointed places units) = some ((units : ℚ) / 10 ^ places) := by
  unfold pointed
  by_cases hp : places = 0
  · rw [if_pos hp, unsignedDecimal?_whole, hp, pow_zero, div_one]
  · have hpos := Nat.pos_of_ne_zero hp
    have hlt : units % Nat.pow 10 places < 10 ^ places := Nat.mod_lt _ (Nat.pow_pos (by decide))
    have hlength := length_padded hpos hlt
    have hne : padded places (units % Nat.pow 10 places) ≠ [] := by
      intro h
      rw [h] at hlength
      exact hp hlength.symm
    rw [if_neg hp]
    refine (unsignedDecimal?_tenths _ hne (all_isDigit_padded _ _)).trans ?_
    have hsum : ((units / 10 ^ places : Nat) : ℚ) * 10 ^ places + (units % 10 ^ places : Nat) =
        units := by
      exact_mod_cast Nat.div_add_mod' units (10 ^ places)
    have hpow : (10 : ℚ) ^ places ≠ 0 := by positivity
    rw [hlength, ofDigits_padded, ← hsum, add_div, mul_div_cancel_right₀ _ hpow]
    rfl

/-! ## Printed doubles -/

theorem takeSign_signed (negative : Bool) {cs : List Char} (hminus : cs.head? ≠ some '-')
    (hplus : cs.head? ≠ some '+') : takeSign (signed negative cs) = (negative, cs) := by
  cases negative with
  | true => rfl
  | false =>
    unfold signed takeSign
    rcases cs with _ | ⟨c, rest⟩
    · rfl
    · have hm : c ≠ '-' := fun h => hminus (h ▸ rfl)
      have hp : c ≠ '+' := fun h => hplus (h ▸ rfl)
      simp [hm, hp]

/-- A text of digits starts with one. -/
theorem head_pointed {places units : Nat} {c : Char} (h : (pointed places units).head? = some c) :
    c.isDigit = true := by
  have hdigit : ∀ n, (Nat.toDigits 10 n).head? = some c → c.isDigit = true := fun n hn =>
    Nat.isDigit_of_mem_toDigits (by decide) (by decide) (List.mem_of_head? hn)
  unfold pointed at h
  by_cases hp : places = 0
  · rw [if_pos hp] at h
    exact hdigit _ h
  · rw [if_neg hp, List.head?_append_of_ne_nil _ Nat.toDigits_ne_nil] at h
    exact hdigit _ h

theorem toList_fixed {x : Float} {d : Dyadic} (h : decode x = .finite d) (places : Nat) :
    (fixed places x).toList = signed d.negative (pointed places (d.units places)) := by
  unfold fixed
  rw [h, String.toList_ofList]

theorem takeSign_pointed (negative : Bool) (places units : Nat) :
    takeSign (signed negative (pointed places units)) = (negative, pointed places units) := by
  have hminus : (pointed places units).head? ≠ some '-' := fun hc =>
    absurd (head_pointed hc) (by decide)
  have hplus : (pointed places units).head? ≠ some '+' := fun hc =>
    absurd (head_pointed hc) (by decide)
  exact takeSign_signed negative hminus hplus

/-- The sign and the digits of a finite double that is printed. -/
theorem takeSign_fixed {x : Float} {d : Dyadic} (h : decode x = .finite d) (places : Nat) :
    takeSign (fixed places x).toList = (d.negative, pointed places (d.units places)) := by
  rw [toList_fixed h, takeSign_pointed]

/-- A finite double is printed as the decimal number that it is rounded to. -/
theorem decimal?_fixed {x : Float} {d : Dyadic} (h : decode x = .finite d) (places : Nat) :
    decimal? (fixed places x).toList =
      some (withSign d.negative ((d.units places : ℚ) / 10 ^ places)) := by
  unfold decimal?
  rw [takeSign_fixed h, unsignedDecimal?_pointed]
  rfl

/-- What is printed is a decimal number exactly when it is finite. -/
theorem isSome_decimal?_fixed (places : Nat) (x : Float) :
    (decimal? (fixed places x).toList).isSome = x.isFinite := by
  have hnone : ∀ cs : List Char, (fixed places x).toList = cs → decimal? cs = none →
      (∀ d, decode x ≠ .finite d) → (decimal? (fixed places x).toList).isSome = x.isFinite := by
    intro cs hcs hd hx
    rw [hcs, hd]
    symm
    rw [Option.isSome_none, Bool.eq_false_iff]
    intro hfinite
    obtain ⟨d, hd⟩ := (isFinite_iff x).mp hfinite
    exact hx d hd
  cases hx : decode x with
  | nan =>
    apply hnone ['n', 'a', 'n'] _ (by decide) (by simp [hx])
    unfold fixed
    rw [hx, String.toList_ofList]
  | infinite negative =>
    apply hnone (signed negative ['i', 'n', 'f']) _ (by cases negative <;> decide) (by simp [hx])
    unfold fixed
    rw [hx, String.toList_ofList]
  | finite d => rw [decimal?_fixed hx, Option.isSome_some, (isFinite_iff x).mpr ⟨d, hx⟩]

theorem withSign_inj {a b : Bool} {p q : ℚ} (hp : 0 ≤ p) (hq : 0 ≤ q)
    (h : withSign a p = withSign b q) : p = q ∧ (a = b ∨ p = 0) := by
  unfold withSign at h
  cases a <;> cases b <;> simp at h ⊢
  · exact h
  · exact ⟨by linarith, by linarith⟩
  · exact ⟨by linarith, by linarith⟩
  · exact h

/-- Doubles that are printed as the same number round to equal doubles. -/
theorem roundTo_equal_of_decimal {x y : Float} (hx : x.isFinite = true) (hy : y.isFinite = true)
    {places : Nat} (h : decimal? (fixed places x).toList = decimal? (fixed places y).toList) :
    (roundTo places x == roundTo places y) = true := by
  obtain ⟨a, ha⟩ := (isFinite_iff x).mp hx
  obtain ⟨b, hb⟩ := (isFinite_iff y).mp hy
  have hpow : (10 : ℚ) ^ places ≠ 0 := by positivity
  rw [decimal?_fixed ha, decimal?_fixed hb] at h
  obtain ⟨hvalue, hsign⟩ :=
    withSign_inj (by positivity) (by positivity) (Option.some.inj h)
  have hunits : a.units places = b.units places := by
    have hcast : (a.units places : ℚ) = b.units places := (div_left_inj' hpow).mp hvalue
    exact_mod_cast hcast
  refine roundTo_equal ha hb hunits (hsign.imp id fun hzero => ?_)
  have hcast : (a.units places : ℚ) = 0 := by
    rcases div_eq_zero_iff.mp hzero with hu | hp
    · exact hu
    · exact absurd hp hpow
  exact_mod_cast hcast

/-! ## Doubles that are printed alike -/

theorem pointed_inj {places a b : Nat} (h : pointed places a = pointed places b) : a = b := by
  have hpow : (10 : ℚ) ^ places ≠ 0 := by positivity
  have hvalue := congrArg unsignedDecimal? h
  rw [unsignedDecimal?_pointed, unsignedDecimal?_pointed, Option.some.injEq,
    div_left_inj' hpow] at hvalue
  exact_mod_cast hvalue

/-- The words for what is not finite. -/
theorem decode_eq_of_fixed {x y : Float} {places : Nat} (hx : ∀ d, decode x ≠ .finite d)
    (hy : ∀ d, decode y ≠ .finite d) (h : fixed places x = fixed places y) :
    decode x = decode y := by
  unfold fixed at h
  have hlist := congrArg String.toList h
  rw [String.toList_ofList, String.toList_ofList] at hlist
  cases hdx : decode x with
  | finite d => exact absurd hdx (hx d)
  | nan =>
    cases hdy : decode y with
    | finite d => exact absurd hdy (hy d)
    | nan => rfl
    | infinite b => cases b <;> simp [hdx, hdy, signed] at hlist
  | infinite a =>
    cases hdy : decode y with
    | finite d => exact absurd hdy (hy d)
    | nan => cases a <;> simp [hdx, hdy, signed] at hlist
    | infinite b => cases a <;> cases b <;> simp [hdx, hdy, signed] at hlist ⊢

/-- Doubles that are printed alike are rounded alike. -/
theorem roundTo_eq_of_fixed {x y : Float} {places : Nat} (h : fixed places x = fixed places y) :
    roundTo places x = roundTo places y := by
  have hfinite : x.isFinite = y.isFinite := by
    rw [← isSome_decimal?_fixed places x, ← isSome_decimal?_fixed places y, h]
  by_cases hx : x.isFinite = true
  · obtain ⟨a, ha⟩ := (isFinite_iff x).mp hx
    obtain ⟨b, hb⟩ := (isFinite_iff y).mp (hfinite ▸ hx)
    have hsign := congrArg (fun text => takeSign text.toList) h
    simp only [takeSign_fixed ha, takeSign_fixed hb, Prod.mk.injEq] at hsign
    rw [roundTo_eq ha, roundTo_eq hb, hsign.1, pointed_inj hsign.2]
  · have hdx : ∀ d, decode x ≠ .finite d := fun d hd => hx ((isFinite_iff x).mpr ⟨d, hd⟩)
    have hdy : ∀ d, decode y ≠ .finite d := fun d hd =>
      hx (hfinite ▸ (isFinite_iff y).mpr ⟨d, hd⟩)
    rw [eq_of_decode_eq hdx (decode_eq_of_fixed hdx hdy h)]

/-! ## The characters of a printed double -/

theorem mem_pointed {places units : Nat} {c : Char} (h : c ∈ pointed places units) :
    c.isDigit = true ∨ c = '.' := by
  have hdigits : ∀ n, c ∈ Nat.toDigits 10 n → c.isDigit = true := fun n hn =>
    Nat.isDigit_of_mem_toDigits (by decide) (by decide) hn
  unfold pointed at h
  by_cases hp : places = 0
  · rw [if_pos hp] at h
    exact Or.inl (hdigits _ h)
  · rw [if_neg hp] at h
    rcases List.mem_append.mp h with hwhole | htail
    · exact Or.inl (hdigits _ hwhole)
    · rcases List.mem_cons.mp htail with hpoint | htenths
      · exact Or.inr hpoint
      · have hpadded : c ∈ padded places (units % Nat.pow 10 places) := htenths
        exact Or.inl (List.all_eq_true.mp (all_isDigit_padded _ _) c hpadded)

/-- A printed double is digits, a sign, a point, or one of the words for what is not finite. -/
theorem mem_fixed {places : Nat} {x : Float} {c : Char} (h : c ∈ (fixed places x).toList) :
    c.isDigit = true ∨ c ∈ ['-', '.', 'n', 'a', 'i', 'f'] := by
  have hsigned : ∀ {negative : Bool} {cs : List Char}, c ∈ signed negative cs →
      c = '-' ∨ c ∈ cs := by
    intro negative cs hc
    cases negative with
    | true => exact List.mem_cons.mp hc
    | false => exact Or.inr hc
  unfold fixed at h
  rw [String.toList_ofList] at h
  cases hx : decode x with
  | nan =>
    rw [hx] at h
    exact Or.inr ((by decide : ['n', 'a', 'n'] ⊆ ['-', '.', 'n', 'a', 'i', 'f']) h)
  | infinite negative =>
    rw [hx] at h
    rcases hsigned h with rfl | hword
    · simp
    · exact Or.inr ((by decide : ['i', 'n', 'f'] ⊆ ['-', '.', 'n', 'a', 'i', 'f']) hword)
  | finite d =>
    rw [hx] at h
    rcases hsigned h with rfl | hnumber
    · simp
    · rcases mem_pointed hnumber with hdigit | rfl
      · exact Or.inl hdigit
      · simp

end PenPlot.Number
