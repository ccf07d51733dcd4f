-- The laws of checks. A check of several parts takes what each part takes, and reports what each
-- part reports, in order. What a check takes it takes again as it is written out: a number as the
-- number it was read as, whatever its spelling was, and a path as its plain text.
import PenPlot.Proofs.Files.Path
import PenPlot.Settings.Scalar

namespace PenPlot.Settings

variable {α β : Type}

/-! ## Results -/

deriving instance DecidableEq for Checked

namespace Checked

/-- A value was found. -/
def Accepts (x : Checked α) : Prop := ∃ a, x = .ok a

instance : DecidablePred (Accepts (α := α))
  | .ok a => .isTrue ⟨a, rfl⟩
  | .failed _ => .isFalse fun ⟨_, h⟩ => by cases h

variable {f : α → β} {g : Checked (α → β)} {x : Checked α} {b : β}

theorem not_accepts_iff : ¬ x.Accepts ↔ ∃ ps, x = .failed ps := by
  cases x <;> simp [Accepts]

@[simp] theorem map_eq_ok_iff : f <$> x = .ok b ↔ ∃ a, x = .ok a ∧ f a = b := by
  cases x <;> simp [Functor.map, map]

@[simp] theorem seq_eq_ok_iff : g <*> x = .ok b ↔ ∃ f, g = .ok f ∧ ∃ a, x = .ok a ∧ f a = b := by
  cases g <;> cases x <;> simp [Seq.seq, apply]

@[simp] theorem accepts_map : (f <$> x).Accepts ↔ x.Accepts := by
  simp [Accepts, map_eq_ok_iff]

@[simp] theorem accepts_seq : (g <*> x).Accepts ↔ g.Accepts ∧ x.Accepts := by
  cases g <;> cases x <;> simp [Accepts, Seq.seq, apply]

@[simp] theorem problems_map : (f <$> x).problems = x.problems := by
  cases x <;> rfl

/-- The problems of both parts are kept. -/
@[simp] theorem problems_seq : (g <*> x).problems = g.problems ++ x.problems := by
  cases g <;> cases x <;> simp [problems, Seq.seq, apply]

variable {step : Step} {a : α}

theorem within_eq_ok_iff : x.within step = .ok a ↔ x = .ok a := by
  cases x <;> simp [within]

theorem accepts_within : (x.within step).Accepts ↔ x.Accepts := by
  simp [Accepts, within_eq_ok_iff]

theorem eq_failed_of_problems {p : Problem} (h : x.problems = [p]) : x = .failed [p] := by
  cases x <;> simp_all [problems]

end Checked

/-! ## Written values -/

/-- What a check takes it takes again as it is written, as the same value. -/
def Settles (check : Check α) (write : α → Json) : Prop :=
  ∀ j a, check j = .ok a → check (write a) = .ok a

/-- A value that may be missing, written as null where it is. -/
def orNull (write : α → Json) (value : Option α) : Json := (value.map write).getD .null

variable {check : Check α} {write : α → Json} {read : Json → Except Cause α}

theorem scalar_eq_ok_iff {j : Json} {a : α} : scalar read j = .ok a ↔ read j = .ok a := by
  unfold scalar Checked.ofScalar
  cases read j <;> simp

theorem settles_scalar (h : ∀ a, read (write a) = .ok a) : Settles (scalar read) write :=
  fun _ a _ => scalar_eq_ok_iff.mpr (h a)

theorem nullable_of_ne_null {j : Json} (h : j ≠ .null) :
    nullable check j = (check j).map some := by
  cases j with
  | null => exact absurd rfl h
  | _ => rfl

theorem settles_nullable (h : Settles check write) (hwrite : ∀ a, write a ≠ .null) :
    Settles (nullable check) (orNull write) := by
  intro j a hj
  cases a with
  | none => rfl
  | some a =>
    have hnull : j ≠ .null := by
      rintro rfl
      exact absurd hj (by simp [nullable])
    rw [nullable_of_ne_null hnull] at hj
    obtain ⟨b, hb, hsome⟩ := Checked.map_eq_ok_iff.mp hj
    obtain rfl := Option.some.inj hsome
    change nullable check (write b) = .ok (some b)
    rw [nullable_of_ne_null (hwrite b), h j b hb]
    rfl

theorem settles_record {ρ : Type} {name : String} {check : List (String × Json) → Checked ρ}
    {fields : ρ → List (String × Json)}
    (h : ∀ given r, check given = .ok r → check (fields r) = .ok r) :
    Settles (record name check) fun r => .obj (fields r) := by
  intro j r hj
  cases j with
  | obj given => exact h given r hj
  | _ => exact absurd hj (by simp [record])

/-! ## Single settings -/

theorem readFinite_value (x : Finite) : readFinite (.real x.value) = .ok x := by
  simp [readFinite, readReal, x.isFinite]

theorem readPositive_value (x : Positive) : readPositive (.real x.value) = .ok x := by
  unfold readPositive
  rw [readFinite_value ⟨x.value, x.isFinite⟩]
  exact dif_pos x.isPositive

theorem readShare_value (x : Share) : readShare (.real x.value) = .ok x := by
  unfold readShare
  rw [readFinite_value ⟨x.value, x.isFinite⟩]
  exact (dif_pos x.atMostOne).trans (dif_pos x.isPositive)

theorem readDuration_value (x : Duration) : readDuration (.real x.value) = .ok x :=
  dif_pos x.isPositive

theorem readCount_value (n : Count) : readCount (.integer n.value) = .ok n := dif_pos n.isPositive

theorem readBetween_value {least greatest : Nat} (n : Between least greatest) :
    readBetween least greatest (.integer n.value) = .ok n := by
  have hatMost : ¬ (greatest : Int) < n.value := by
    have := n.atMost
    omega
  have hbounds : 0 ≤ (n.value : Int) ∧ least ≤ (n.value : Int).toNat ∧
      (n.value : Int).toNat ≤ greatest := ⟨by omega, n.atLeast, n.atMost⟩
  exact (if_neg hatMost).trans (dif_pos hbounds)

theorem readTruth_bool (b : Bool) : readTruth (.bool b) = .ok b := rfl

theorem readText_str (s : String) : readText (.str s) = .ok s := rfl

/-- A path is written in the one way that is read back as it is. -/
theorem settles_readPath : Settles (scalar readPath) fun p => .str p.toString := by
  intro j p hj
  rw [scalar_eq_ok_iff] at hj ⊢
  cases j with
  | str s =>
    obtain rfl : Files.Path.ofString s = p := Except.ok.inj hj
    exact congrArg Except.ok (Files.ofString_toString_ofString s)
  | _ => exact absurd hj (by simp [readPath])

/-! ## Values that are checked as a whole -/

/-- A check takes a value or finds one thing wrong with it, and looks at none of its parts. -/
def IsWhole (check : Check α) : Prop :=
  ∀ j, (check j).Accepts ∨ ∃ cause, check j = .failed [⟨[], cause⟩]

theorem isWhole_scalar (read : Json → Except Cause α) : IsWhole (scalar read) := by
  intro j
  unfold scalar
  cases read j with
  | ok a => exact .inl ⟨a, rfl⟩
  | error cause => exact .inr ⟨cause, rfl⟩

theorem IsWhole.nullable (h : IsWhole check) : IsWhole (nullable check) := by
  intro j
  by_cases hnull : j = .null
  · rw [hnull]
    exact .inl ⟨none, rfl⟩
  · rw [nullable_of_ne_null hnull]
    rcases h j with ⟨a, ha⟩ | ⟨cause, hcause⟩
    · exact .inl ⟨some a, by rw [ha]; rfl⟩
    · exact .inr ⟨cause, by rw [hcause]; rfl⟩

end PenPlot.Settings
