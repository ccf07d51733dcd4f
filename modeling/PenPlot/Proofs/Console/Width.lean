-- The laws of width. A text is as wide as its parts together, where no joiner stands between
-- them, and a longer text is no narrower. Without joiners and selectors the width is a plain sum.
import Mathlib.Algebra.GroupWithZero.Nat
import PenPlot.Console.Width

namespace PenPlot.Console

variable {cs ds : List Char} {last? : Option Char}

/-! ## Cells -/

/-- The cells of a text after a character that a selector could make grow. -/
def cellsAfter (last? : Option Char) : List Char → Nat
  | [] => 0
  | c :: rest =>
    if c = joiner then
      match rest with
      | [] => 0
      | _ :: rest => cellsAfter last? rest
    else if c = emojiSelector then
      if last?.any grows then 1 + cellsAfter none rest else cellsAfter last? rest
    else
      match charCells c with
      | 0 => cellsAfter last? rest
      | cells => cells + cellsAfter (some c) rest

@[simp] theorem cellsAfter_nil : cellsAfter last? [] = 0 := rfl

@[simp] theorem cellsAfter_joiner_nil : cellsAfter last? [joiner] = 0 := rfl

/-- A joiner hides the character after it. -/
@[simp] theorem cellsAfter_joiner_cons (c : Char) :
    cellsAfter last? (joiner :: c :: cs) = cellsAfter last? cs := rfl

theorem cellsAfter_selector :
    cellsAfter last? (emojiSelector :: cs) =
      if last?.any grows then 1 + cellsAfter none cs else cellsAfter last? cs := by
  rw [cellsAfter.eq_def]
  simp only [show emojiSelector ≠ joiner by decide, if_false, if_true]

theorem cellsAfter_cons {c : Char} (hjoiner : c ≠ joiner) (hselector : c ≠ emojiSelector) :
    cellsAfter last? (c :: cs) =
      if charCells c = 0 then cellsAfter last? cs else charCells c + cellsAfter (some c) cs := by
  rw [cellsAfter.eq_def]
  simp only [hjoiner, hselector, if_false]
  split <;> simp_all

theorem totalCells_clustersAfter (current : Cluster) (last? : Option Char) (cs : List Char) :
    totalCells (clustersAfter current last? cs) = current.cells + cellsAfter last? cs := by
  fun_induction clustersAfter current last? cs <;>
    simp_all [cellsAfter_selector, cellsAfter_cons, totalCells, Cluster.extend, Nat.add_assoc]

theorem textCells_eq (cs : List Char) : textCells cs = cellsAfter none cs := by
  rw [textCells, totalCells_clustersAfter, Nat.zero_add]

/-- What stands before a text can only make it wider. -/
theorem cellsAfter_none_le (last? : Option Char) (cs : List Char) :
    cellsAfter none cs ≤ cellsAfter last? cs := by
  fun_induction cellsAfter last? cs <;> simp_all [cellsAfter_selector, cellsAfter_cons]

/-- A text is no narrower than its beginning. -/
theorem cellsAfter_le_append (last? : Option Char) (cs ds : List Char) :
    cellsAfter last? cs ≤ cellsAfter last? (cs ++ ds) := by
  fun_induction cellsAfter last? cs <;> simp_all [cellsAfter_selector, cellsAfter_cons]

theorem textCells_le_append (cs ds : List Char) : textCells cs ≤ textCells (cs ++ ds) := by
  simpa only [textCells_eq] using cellsAfter_le_append none cs ds

theorem getLast?_ne_of_cons {c d : Char} (h : (c :: cs).getLast? ≠ some d) :
    cs.getLast? ≠ some d := by
  intro hlast
  simp [List.getLast?_cons, hlast] at h

/-- A text that does not end in a joiner hides nothing of what comes after it. -/
theorem exists_cellsAfter_append (last? : Option Char) (h : cs.getLast? ≠ some joiner) :
    ∃ after?, ∀ ds, cellsAfter last? (cs ++ ds) = cellsAfter last? cs + cellsAfter after? ds := by
  fun_induction cellsAfter last? cs with
  | case1 last? => exact ⟨last?, by simp⟩
  | case2 last? => simp at h
  | case3 last? c rest ih => exact ih (getLast?_ne_of_cons (getLast?_ne_of_cons h))
  | case4 last? rest hgrows hne ih =>
    obtain ⟨after?, happend⟩ := ih (getLast?_ne_of_cons h)
    exact ⟨after?, by simp [cellsAfter_selector, hgrows, happend, Nat.add_assoc]⟩
  | case5 last? rest hgrows hne ih =>
    obtain ⟨after?, happend⟩ := ih (getLast?_ne_of_cons h)
    exact ⟨after?, by simp [cellsAfter_selector, hgrows, happend]⟩
  | case6 last? c rest hjoiner hselector hcells ih =>
    obtain ⟨after?, happend⟩ := ih (getLast?_ne_of_cons h)
    exact ⟨after?, by simp [cellsAfter_cons hjoiner hselector, hcells, happend]⟩
  | case7 last? c rest hjoiner hselector hcells ih =>
    have hpos : charCells c ≠ 0 := hcells
    obtain ⟨after?, happend⟩ := ih (getLast?_ne_of_cons h)
    exact ⟨after?, by simp [cellsAfter_cons hjoiner hselector, hpos, happend, Nat.add_assoc]⟩

/-- Taken apart, a text is no wider than as a whole. -/
theorem textCells_add_le (h : cs.getLast? ≠ some joiner) (ds : List Char) :
    textCells cs + textCells ds ≤ textCells (cs ++ ds) := by
  obtain ⟨after?, happend⟩ := exists_cellsAfter_append none h
  simp only [textCells_eq, happend ds]
  have := cellsAfter_none_le after? ds
  omega

/-! ## Clusters -/

/-- The clusters of a text are as wide as it is, but where it starts with two joiners: the first
one hides the second, or the second one hides the character after it. -/
theorem textCells_le_totalCells (h : ¬ [joiner, joiner] <+: cs) :
    textCells cs ≤ totalCells (clusters cs) := by
  cases cs with
  | nil => simp [textCells_eq, clusters]
  | cons c rest =>
    rw [textCells_eq, clusters]
    by_cases hjoiner : c = joiner
    · subst hjoiner
      rw [if_pos (.inl rfl), totalCells_clustersAfter]
      cases rest with
      | nil => simp
      | cons d rest =>
        have hd : d ≠ joiner := by
          rintro rfl
          exact h (by simp)
        by_cases hselector : d = emojiSelector
        · simp [hselector, cellsAfter_selector]
        · have := cellsAfter_none_le (some d) rest
          rw [cellsAfter_joiner_cons, cellsAfter_cons hd hselector]
          split <;> simp only <;> omega
    · by_cases hselector : c = emojiSelector
      · subst hselector
        rw [if_pos (.inr (.inl rfl)), totalCells_clustersAfter]
        simp [cellsAfter_selector]
      · rw [cellsAfter_cons hjoiner hselector]
        by_cases hcells : charCells c = 0 <;>
          simp [hjoiner, hselector, hcells, totalCells_clustersAfter]

/-! ## Plain texts -/

/-- A text in which no character joins or changes another one. -/
structure Plain (cs : List Char) : Prop where
  noJoiner : joiner ∉ cs
  noSelector : emojiSelector ∉ cs

/-- The cells of characters one by one. -/
def sumCells (cs : List Char) : Nat := (cs.map charCells).sum

@[simp] theorem sumCells_nil : sumCells [] = 0 := rfl

@[simp] theorem sumCells_cons (c : Char) (cs : List Char) :
    sumCells (c :: cs) = charCells c + sumCells cs := rfl

@[simp] theorem sumCells_append (cs ds : List Char) :
    sumCells (cs ++ ds) = sumCells cs + sumCells ds := by
  simp [sumCells]

theorem Plain.of_cons {c : Char} (h : Plain (c :: cs)) :
    c ≠ joiner ∧ c ≠ emojiSelector ∧ Plain cs :=
  ⟨fun hc => h.noJoiner (hc ▸ List.mem_cons_self), fun hc => h.noSelector (hc ▸ List.mem_cons_self),
    fun hc => h.noJoiner (List.mem_cons_of_mem _ hc),
    fun hc => h.noSelector (List.mem_cons_of_mem _ hc)⟩

theorem Plain.of_subset (h : Plain cs) (hds : ds ⊆ cs) : Plain ds :=
  ⟨fun hc => h.noJoiner (hds hc), fun hc => h.noSelector (hds hc)⟩

theorem Plain.cellsAfter_eq (h : Plain cs) (last? : Option Char) :
    cellsAfter last? cs = sumCells cs := by
  induction cs generalizing last? with
  | nil => rfl
  | cons c rest ih =>
    obtain ⟨hjoiner, hselector, hrest⟩ := h.of_cons
    rw [cellsAfter_cons hjoiner hselector, ih hrest, ih hrest]
    by_cases hcells : charCells c = 0 <;> simp [hcells]

/-- A plain text is as wide as its characters together. -/
theorem Plain.textCells_eq (h : Plain cs) : textCells cs = sumCells cs := by
  rw [Console.textCells_eq, h.cellsAfter_eq]

/-- A plain character goes into the current cluster, or begins the next one. -/
theorem clustersAfter_cons {c : Char} (hjoiner : c ≠ joiner) (hselector : c ≠ emojiSelector)
    (current : Cluster) :
    clustersAfter current last? (c :: cs) =
      if charCells c = 0 then clustersAfter (current.extend 0) last? cs
      else current :: clustersAfter ⟨1, charCells c⟩ (some c) cs := by
  rw [clustersAfter.eq_def]
  simp only [hjoiner, hselector, if_false]
  split <;> simp_all

/-- The first character of a plain text begins its first cluster. -/
theorem Plain.exists_clusters_cons {c : Char} (h : Plain (c :: cs)) :
    ∃ last?, clusters (c :: cs) = clustersAfter ⟨1, charCells c⟩ last? cs := by
  obtain ⟨hjoiner, hselector, -⟩ := h.of_cons
  by_cases hzero : charCells c = 0
  · exact ⟨none, by simp [clusters, hzero]⟩
  · exact ⟨some c, by simp [clusters, hjoiner, hselector, hzero]⟩

/-- The clusters of a plain text are as wide as it is. -/
theorem Plain.totalCells_clusters (h : Plain cs) : totalCells (clusters cs) = sumCells cs := by
  cases cs with
  | nil => rfl
  | cons c cs =>
    obtain ⟨last?, hclusters⟩ := h.exists_clusters_cons
    rw [hclusters, totalCells_clustersAfter, h.of_cons.2.2.cellsAfter_eq, sumCells_cons]

/-- No character takes more than two cells. -/
theorem charCells_le_two (c : Char) : charCells c ≤ 2 := by
  unfold charCells
  split
  · omega
  · split
    · omega
    · split
      · omega
      · split <;> omega

theorem cellsAfter_le (last? : Option Char) (cs : List Char) :
    cellsAfter last? cs ≤ 2 * cs.length := by
  fun_induction cellsAfter last? cs with
  | case7 last? c rest _ _ _ ih =>
    have hcells := charCells_le_two c
    simp only [List.length_cons]
    omega
  | _ => simp only [List.length_cons, List.length_nil] at *; omega

/-- So a text has no more than two cells for each character. -/
theorem textCells_le (cs : List Char) : textCells cs ≤ 2 * cs.length := by
  rw [textCells_eq]
  exact cellsAfter_le none cs

end PenPlot.Console
