-- The files of a font reader. A file that proves damaged is closed at once, and the font that
-- the reader holds is closed when it lets go of it. A font that is loaded takes the place of
-- the one held before, and that one is never closed.
import PenPlot.Font.Reader

namespace PenPlot.Font

/-! ## A reader in use -/

/-- What is done with a reader. A load goes with what the path of the reader leads to at the time;
entering a reader loads its font, and leaving it closes it. -/
inductive ReaderUse where
  | load (found : Found)
  | enter (found : Found)
  | leave
  | close
  | ask (q : Query)

namespace Reader

variable (path : String)

/-- The reader is used once more; a question leaves it as it is. -/
def use (r : Reader) : ReaderUse → Reader
  | .load found | .enter found => (r.load path found).1
  | .leave | .close => r.close
  | .ask _ => r

/-- The reader is used again and again. -/
def useAll (r : Reader) (uses : List ReaderUse) : Reader := uses.foldl (use path) r

/-- The number of fonts that a reader holds. -/
def held (r : Reader) : Nat := if r.current?.isSome then 1 else 0

/-- Whether a font is loaded in the place of one that the reader still holds. -/
def replaces (r : Reader) : ReaderUse → Bool
  | .load found | .enter found => r.current?.isSome && (read path found).toOption.isSome
  | _ => false

/-- The number of fonts that are replaced while a reader is used. -/
def replaced (r : Reader) : List ReaderUse → Nat
  | [] => 0
  | u :: rest => (r.replaces path u).toNat + (r.use path u).replaced rest

variable {path}

/-! ## A load as a whole -/

/-- A load takes over the font and its character map, or neither: whichever part of the file is
damaged, those from before stay. -/
theorem load_eq (r : Reader) (path : String) (found : Found) :
    r.load path found =
      let opened := if wasOpened found then 1 else 0
      match read path found with
      | .ok tables => (⟨r.opened + opened, r.closed, some tables, tables.charMap⟩, .ok ())
      | .error fault =>
        (⟨r.opened + opened, r.closed + opened, r.current?, r.charMap⟩, .error fault) := by
  rcases found with (_ | _ | _ | _) | (_ | file)
  case ok.file =>
    obtain ⟨tables, damage?, stalls⟩ := file
    rcases damage? with _ | ⟨(_ | _ | _ | _), damage⟩ <;> rfl
  all_goals rfl

/-! ## What is opened and closed -/

/-- What can be read was opened. -/
theorem wasOpened_of_read {found : Found} {tables : Tables} (h : read path found = .ok tables) :
    wasOpened found = true := by
  unfold read at h
  split at h
  · cases h
  · cases h
  · cases h
  · rename_i file
    cases hdamage : file.damage? with
    | none => simp only [wasOpened, hdamage]
    | some damage =>
      rw [hdamage] at h
      cases h

/-- All files that were opened are closed but those of the font that the reader holds and of `n`
others. -/
def Lacks (n : Nat) (r : Reader) : Prop := r.opened = r.closed + r.held + n

variable {n : Nat} {r : Reader}

theorem Lacks.close (h : r.Lacks n) : r.close.Lacks n := by
  unfold Lacks held Reader.close at *
  cases hcurrent : r.current? with
  | none => simpa [hcurrent] using h
  | some tables =>
    simp only [hcurrent, Option.isSome_some, if_true] at h
    simp only [Option.isSome_none, Bool.false_eq_true, if_false]
    omega

theorem Lacks.load (h : r.Lacks n) (found : Found) :
    (r.load path found).1.Lacks
      (n + (r.current?.isSome && (read path found).toOption.isSome).toNat) := by
  unfold Lacks held at *
  rw [load_eq]
  cases hread : read path found with
  | error fault =>
    simp only [Except.toOption, Option.isSome_none, Bool.and_false, Bool.toNat_false]
    omega
  | ok tables =>
    simp only [wasOpened_of_read hread, Except.toOption, Option.isSome_some, Bool.and_true, if_true]
    cases hcurrent : r.current?.isSome <;>
      simp only [hcurrent, Bool.toNat_true, Bool.toNat_false, if_true, Bool.false_eq_true,
        if_false] at h ⊢ <;> omega

theorem Lacks.use (h : r.Lacks n) (u : ReaderUse) :
    (r.use path u).Lacks (n + (r.replaces path u).toNat) := by
  cases u with
  | load found => exact h.load found
  | enter found => exact h.load found
  | leave => exact h.close
  | close => exact h.close
  | ask q => exact h

theorem Lacks.useAll (h : r.Lacks n) (uses : List ReaderUse) :
    (r.useAll path uses).Lacks (n + r.replaced path uses) := by
  induction uses generalizing r n with
  | nil => exact h
  | cons u rest ih =>
    rw [replaced, ← Nat.add_assoc]
    exact ih (h.use u)

/-- No font is replaced exactly when none is at any time. -/
theorem replaced_eq_zero_iff (uses : List ReaderUse) :
    r.replaced path uses = 0 ↔ ∀ before u later, uses = before ++ u :: later →
      (r.useAll path before).replaces path u = false := by
  induction uses generalizing r with
  | nil => simp [replaced]
  | cons u rest ih =>
    rw [replaced, Nat.add_eq_zero_iff, ih, Bool.toNat_eq_zero]
    constructor
    · rintro ⟨hfirst, hrest⟩ before v later huses
      cases before with
      | nil =>
        obtain ⟨rfl, -⟩ := List.cons.inj huses
        exact hfirst
      | cons w others =>
        obtain ⟨rfl, hothers⟩ := List.cons.inj huses
        exact hrest others v later hothers
    · intro h
      refine ⟨h [] u rest rfl, fun before v later hrest => ?_⟩
      exact h (u :: before) v later (congrArg _ hrest)

/-! ## The law -/

/-- However a reader is used, the files that it opened and did not close are those of the font that
it holds and of the fonts that were replaced; once it lets go of its font, only the latter are. So
it closes whatever it opened, the font that it holds apart, exactly if it never loads a font while
it holds one. -/
theorem all_but_the_replaced_fonts_are_closed (path : String) (uses : List ReaderUse) :
    let r := fresh.useAll path uses
    r.opened = r.closed + r.held + fresh.replaced path uses ∧
    r.close.opened = r.close.closed + fresh.replaced path uses ∧
    (r.opened = r.closed + r.held ↔ ∀ before u later, uses = before ++ u :: later →
      (fresh.useAll path before).replaces path u = false) := by
  intro r
  have hfresh : fresh.Lacks 0 := rfl
  have hr : r.Lacks (0 + fresh.replaced path uses) := hfresh.useAll uses
  rw [Nat.zero_add] at hr
  have hclose : r.close.held = 0 := by
    unfold held Reader.close
    cases h : r.current? <;> simp [h]
  have hclosed : r.close.Lacks (fresh.replaced path uses) := hr.close
  unfold Lacks at hr hclosed
  refine ⟨hr, by rwa [hclose] at hclosed, ?_⟩
  rw [← replaced_eq_zero_iff]
  omega

/-- A font without glyphs. -/
def emptyFont : Found := .ok (.file ⟨⟨1000, [], [], [], [], []⟩, none, false⟩)

/-- A font that is loaded twice was opened twice, and is closed once. -/
theorem a_font_loaded_twice_stays_open :
    ¬ ∀ path uses, (fresh.useAll path uses).opened =
      (fresh.useAll path uses).closed + (fresh.useAll path uses).held := by
  intro hall
  have htwice := hall "a.ttf" [.load emptyFont, .load emptyFont, .close]
  exact absurd htwice (by decide)

end Reader

end PenPlot.Font
