-- What a font reader answers. The font and its character map are set one after the other, but
-- between two uses of a reader they always belong together: the reader answers as one that has
-- just loaded the last font that could be loaded, and without a font it gives no answer.
import Mathlib.Data.List.Induction
import PenPlot.Proofs.Font.Reader

namespace PenPlot.Font

/-! ## The last font that was loaded -/

/-- What a use of a reader tries to load. -/
def ReaderUse.loads? : ReaderUse → Option Found
  | .load found | .enter found => some found
  | _ => none

/-- Whether the reader lets go of its font. -/
def ReaderUse.letsGo : ReaderUse → Bool
  | .leave | .close => true
  | _ => false

namespace Reader

variable {path : String} {r s : Reader} {u : ReaderUse} {uses : List ReaderUse} {found : Found}
  {q : Query} {tables : Tables} {tables? : Option Tables}

/-- A use of a reader is a load that succeeds, and it loads `found`. -/
def Obtains (path : String) (r : Reader) (u : ReaderUse) (found : Found) : Prop :=
  u.loads? = some found ∧ (r.load path found).2 = .ok ()

/-- The last load of a new reader that succeeded has seen `found`, and the reader has not let go of
its font since. -/
inductive LastLoaded (path : String) : List ReaderUse → Found → Prop
  | loaded {uses : List ReaderUse} {u : ReaderUse} {found : Found} :
      Obtains path (fresh.useAll path uses) u found → LastLoaded path (uses ++ [u]) found
  | kept {uses : List ReaderUse} {u : ReaderUse} {found : Found} :
      LastLoaded path uses found → u.letsGo = false →
      (∀ other, ¬ Obtains path (fresh.useAll path uses) u other) →
      LastLoaded path (uses ++ [u]) found

theorem useAll_append (r : Reader) (before later : List ReaderUse) :
    r.useAll path (before ++ later) = (r.useAll path before).useAll path later :=
  List.foldl_append

/-! ## The font and its character map -/

/-- The font of a reader, and beside it the character map of that font. -/
structure Holds (r : Reader) (tables? : Option Tables) : Prop where
  font : r.current? = tables?
  map : r.charMap = (tables?.map Tables.charMap).getD []

theorem Holds.answer_some (h : r.Holds (some tables)) : r.answer q = tables.answer q := by
  unfold Reader.answer
  rw [h.font, h.map]
  rfl

theorem Holds.answer_none (h : r.Holds none) : r.answer q = .error .notLoaded := by
  unfold Reader.answer
  rw [h.font]

theorem Holds.close (h : r.Holds tables?) : r.close.Holds none := by
  unfold Reader.close
  rw [h.font]
  cases tables? with
  | none => exact h
  | some tables => exact ⟨rfl, rfl⟩

theorem load_done_iff : (r.load path found).2 = .ok () ↔
    ∃ tables, read path found = .ok tables := by
  rw [load_eq]
  cases read path found <;> simp

theorem holds_load (h : read path found = .ok tables) :
    (r.load path found).1.Holds (some tables) := by
  rw [load_eq, h]
  exact ⟨rfl, rfl⟩

/-- A load that fails leaves the font and the character map as they were. -/
theorem load_failed (h : (r.load path found).2 ≠ .ok ()) :
    (r.load path found).1.current? = r.current? ∧ (r.load path found).1.charMap = r.charMap := by
  rw [load_eq] at h ⊢
  cases hread : read path found with
  | ok tables => simp [hread] at h
  | error fault => exact ⟨rfl, rfl⟩

/-- Uses that neither load a font nor let go of one change nothing that an answer depends on. -/
theorem Holds.kept (h : r.Holds tables?) (hkept : u.letsGo = false)
    (hnone : ∀ other, ¬ Obtains path r u other) : (r.use path u).Holds tables? := by
  have hload : ∀ other, u.loads? = some other → (r.load path other).1.Holds tables? := by
    intro other hother
    obtain ⟨hfont, hmap⟩ := load_failed fun hdone => hnone other ⟨hother, hdone⟩
    exact ⟨hfont.trans h.font, hmap.trans h.map⟩
  cases u with
  | load other => exact hload other rfl
  | enter other => exact hload other rfl
  | leave => cases hkept
  | close => cases hkept
  | ask q => exact h

/-- A use that loads a font leaves the reader with this font and its character map. -/
theorem Obtains.holds (h : Obtains path r u found) :
    ∃ tables, read path found = .ok tables ∧ (r.use path u).Holds (some tables) := by
  obtain ⟨hloads, hdone⟩ := h
  obtain ⟨tables, hread⟩ := load_done_iff.mp hdone
  refine ⟨tables, hread, ?_⟩
  cases u with
  | load other =>
    cases hloads
    exact holds_load hread
  | enter other =>
    cases hloads
    exact holds_load hread
  | _ => cases hloads

/-! ## Runs -/

theorem LastLoaded.holds (h : LastLoaded path uses found) :
    ∃ tables, read path found = .ok tables ∧ (fresh.useAll path uses).Holds (some tables) := by
  induction h with
  | loaded hobtains =>
    rw [useAll_append]
    exact hobtains.holds
  | kept _ hkept hnone ih =>
    obtain ⟨tables, hread, hholds⟩ := ih
    rw [useAll_append]
    exact ⟨tables, hread, hholds.kept hkept hnone⟩

theorem holds_none (h : ∀ found, ¬ LastLoaded path uses found) :
    (fresh.useAll path uses).Holds none := by
  induction uses using List.reverseRecOn with
  | nil => exact ⟨rfl, rfl⟩
  | append_singleton uses u ih =>
    have hnone : ∀ other, ¬ Obtains path (fresh.useAll path uses) u other :=
      fun other hobtains => h other (.loaded hobtains)
    rw [useAll_append]
    cases hkept : u.letsGo with
    | false => exact (ih fun found hlast => h found (hlast.kept hkept hnone)).kept hkept hnone
    | true =>
      -- Whatever the reader held, it is gone.
      obtain ⟨tables?, hholds⟩ : ∃ tables?, (fresh.useAll path uses).Holds tables? := by
        by_cases hlast : ∃ found, LastLoaded path uses found
        · obtain ⟨found, hlast⟩ := hlast
          obtain ⟨tables, -, hholds⟩ := hlast.holds
          exact ⟨some tables, hholds⟩
        · exact ⟨none, ih fun found hfound => hlast ⟨found, hfound⟩⟩
      cases u with
      | leave => exact hholds.close
      | close => exact hholds.close
      | _ => cases hkept

/-- Two readers with the same font and the same character map; they may have opened and closed
different numbers of files. -/
structure Alike (r s : Reader) : Prop where
  font : r.current? = s.current?
  map : r.charMap = s.charMap

theorem Alike.answer (h : Alike r s) : r.answer q = s.answer q := by
  unfold Reader.answer
  rw [h.font, h.map]

theorem Alike.load (h : Alike r s) : Alike (r.load path found).1 (s.load path found).1 := by
  rw [load_eq, load_eq]
  cases read path found with
  | ok tables => exact ⟨rfl, rfl⟩
  | error fault => exact ⟨h.font, h.map⟩

theorem Alike.close (h : Alike r s) : Alike r.close s.close := by
  unfold Reader.close
  rw [h.font]
  cases s.current? with
  | none => exact h
  | some tables => exact ⟨rfl, rfl⟩

theorem Alike.use (h : Alike r s) : Alike (r.use path u) (s.use path u) := by
  cases u with
  | load found => exact h.load
  | enter found => exact h.load
  | leave => exact h.close
  | close => exact h.close
  | ask q => exact h

theorem Alike.useAll (h : Alike r s) (uses : List ReaderUse) :
    Alike (r.useAll path uses) (s.useAll path uses) := by
  induction uses generalizing r s with
  | nil => exact h
  | cons u rest ih => exact ih h.use

/-! ## The law -/

/-- However a reader was used, it answers every question as a new reader that has loaded what the
last load that succeeded has seen, if the reader has not let go of that font, and otherwise that no
font is loaded. A load that fails, at whatever part of the file, might as well not have been. -/
theorem the_last_font_loaded_answers (path : String) (uses : List ReaderUse) (q : Query) :
    (∀ found, LastLoaded path uses found → (fresh.load path found).2 = .ok () ∧
      (fresh.useAll path uses).answer q = (fresh.load path found).1.answer q) ∧
    ((∀ found, ¬ LastLoaded path uses found) →
      (fresh.useAll path uses).answer q = .error .notLoaded) ∧
    ∀ before u found later, uses = before ++ u :: later → u.loads? = some found →
      ((fresh.useAll path before).load path found).2 ≠ .ok () →
      (fresh.useAll path uses).answer q = (fresh.useAll path (before ++ later)).answer q := by
  refine ⟨fun found hlast => ?_, fun hnone => (holds_none hnone).answer_none, ?_⟩
  · obtain ⟨tables, hread, hholds⟩ := hlast.holds
    have hnew : (fresh.load path found).1.Holds (some tables) := holds_load hread
    exact ⟨load_done_iff.mpr ⟨tables, hread⟩, by rw [hholds.answer_some, hnew.answer_some]⟩
  · rintro before u found later rfl hloads hfailed
    have halike : Alike ((fresh.useAll path before).use path u) (fresh.useAll path before) := by
      obtain ⟨hfont, hmap⟩ := load_failed hfailed
      cases u with
      | load other =>
        cases hloads
        exact ⟨hfont, hmap⟩
      | enter other =>
        cases hloads
        exact ⟨hfont, hmap⟩
      | _ => cases hloads
    rw [useAll_append, useAll_append]
    exact (halike.useAll later).answer

/-- A font with one letter, in a file that is damaged or not. -/
def letterFont (damage? : Option (Part × Damage)) : Found :=
  .ok (.file ⟨⟨1000, ["A"], [("A", some 5)], [(65, "A")], [], []⟩, damage?, false⟩)

/-- The letter is found once its font is loaded, also after a file has proved damaged at its very
last part; it is not found any more once the font is closed. -/
theorem a_damaged_file_does_not_take_the_letter_away :
    let letter := letterFont none
    let damaged := letterFont (some (.charMap, .missingEntry "cmap"))
    let asked := Query.glyphName "A"
    let last := [ReaderUse.load emptyFont, .load letter] ++ [.enter damaged]
    (LastLoaded "a.ttf" last letter ∧
      (fresh.load "a.ttf" letter).1.answer asked = .ok (.glyphName (some "A")) ∧
      (fresh.useAll "a.ttf" last).answer asked = .ok (.glyphName (some "A"))) ∧
    ((∀ found, ¬ LastLoaded "a.ttf" [.load letter, .close] found) ∧
      (fresh.useAll "a.ttf" [.load letter, .close]).answer asked = .error .notLoaded) ∧
    ((fresh.load "a.ttf" damaged).2 ≠ .ok () ∧
      (fresh.useAll "a.ttf" [.load damaged, .load letter]).answer asked =
        (fresh.useAll "a.ttf" [.load letter]).answer asked) := by
  intro letter damaged asked last
  have hlast : LastLoaded "a.ttf" last letter := by
    refine .kept (@LastLoaded.loaded _ [.load emptyFont] (.load letter) _ ⟨rfl, rfl⟩) rfl ?_
    rintro other ⟨hloads, hdone⟩
    cases hloads
    cases hdone
  have hnone : ∀ found, ¬ LastLoaded "a.ttf" [.load letter, .close] found := by
    intro found h
    obtain ⟨tables, -, hholds⟩ := h.holds
    cases hholds.font
  have hfailed : (fresh.load "a.ttf" damaged).2 ≠ .ok () := by
    intro h
    cases h
  have hfound : (fresh.load "a.ttf" letter).1.answer asked = .ok (.glyphName (some "A")) := rfl
  refine ⟨⟨hlast, hfound, ?_⟩, ⟨hnone, ?_⟩, hfailed, ?_⟩
  · exact ((the_last_font_loaded_answers "a.ttf" last asked).1 letter hlast).2.trans hfound
  · exact (the_last_font_loaded_answers "a.ttf" [.load letter, .close] asked).2.1 hnone
  · exact (the_last_font_loaded_answers "a.ttf" [.load damaged, .load letter] asked).2.2 []
      (.load damaged) damaged [.load letter] rfl rfl hfailed

end Reader

end PenPlot.Font
