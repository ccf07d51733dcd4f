-- The words of a line. Taken one by one they are no wider than the line, and a word that is folded
-- loses nothing.
import Mathlib.Data.List.SplitBy
import PenPlot.Console.Wrapping
import PenPlot.Proofs.Console.Width

namespace PenPlot.Console

variable {line : List Placed} {width : Nat}

@[simp] theorem chars_nil : chars [] = [] := rfl

@[simp] theorem chars_cons (p : Placed) (line : List Placed) :
    chars (p :: line) = p.char :: chars line := rfl

@[simp] theorem chars_append (a b : List Placed) : chars (a ++ b) = chars a ++ chars b :=
  List.map_append

theorem chars_map_asSpace (line : List Placed) :
    chars (line.map Placed.asSpace) = List.replicate line.length ' ' := by
  induction line with
  | nil => rfl
  | cons p line ih => simp [ih, Placed.asSpace, List.replicate_succ]

/-! ## Words -/

/-- The words of a line that has any make up the line. -/
theorem flatten_wordsOf (h : wordsOf line ≠ []) : (wordsOf line).flatten = line := by
  have hruns := List.flatten_splitBy (fun p q : Placed => p.isBlank == q.isBlank) line
  unfold wordsOf at h ⊢
  cases heq : line.splitBy fun p q => p.isBlank == q.isBlank with
  | nil => exact absurd (by rw [heq]) h
  | cons first rest =>
    rw [heq, List.flatten_cons] at hruns
    rw [heq] at h
    simp only at h ⊢
    split at h
    · cases htwos : inTwos rest with
      | nil => exact absurd (by rw [htwos]) h
      | cons word more =>
        have hflatten := flatten_inTwos rest
        rw [htwos, List.flatten_cons] at hflatten
        rw [if_pos ‹_›]
        simp only [List.flatten_cons, List.append_assoc, hflatten, hruns]
    · rw [if_neg ‹_›, flatten_inTwos, List.flatten_cons, hruns]

theorem eq_nil_of_inTwos_eq_nil {runs : List (List Placed)} (h : inTwos runs = []) : runs = [] := by
  fun_induction inTwos runs <;> simp_all

/-- A line without words is blank. -/
theorem isBlank_of_wordsOf_eq_nil (h : wordsOf line = []) : ∀ p ∈ line, p.isBlank = true := by
  have hruns := List.flatten_splitBy (fun p q : Placed => p.isBlank == q.isBlank) line
  unfold wordsOf at h
  cases heq : line.splitBy fun p q => p.isBlank == q.isBlank with
  | nil =>
    rw [List.splitBy_eq_nil.mp heq]
    simp
  | cons first rest =>
    rw [heq] at h hruns
    simp only at h
    split at h
    · rename_i hblank
      split at h
      · rename_i htwos
        rw [eq_nil_of_inTwos_eq_nil htwos, List.flatten_singleton] at hruns
        exact hruns ▸ List.all_eq_true.mp hblank
      · cases h
    · exact absurd (eq_nil_of_inTwos_eq_nil h) (by simp)

theorem withoutTail_append (word : List Placed) :
    withoutTail word ++ (word.reverse.takeWhile Placed.isBlank).reverse = word := by
  rw [withoutTail, ← List.reverse_append, List.takeWhile_append_dropWhile, List.reverse_reverse]

/-- A word is what it is without its tail, and blanks. -/
theorem exists_withoutTail (word : List Placed) :
    ∃ blanks, word = withoutTail word ++ blanks ∧ ∀ p ∈ blanks, p.isBlank = true :=
  ⟨_, (withoutTail_append word).symm, fun p hp =>
    List.all_eq_true.mp List.all_takeWhile p (List.mem_reverse.mp hp)⟩

/-- Runs that are blank and not blank by turns; the flag is that of the first one. -/
def Alternate : Bool → List (List Placed) → Prop
  | _, [] => True
  | blank, run :: rest => run ≠ [] ∧ (∀ p ∈ run, p.isBlank = blank) ∧ Alternate (!blank) rest

/-- In a run in which neighbors are alike, all are like the first one. -/
theorem isBlank_eq_of_isChain {p : Placed} {run : List Placed}
    (h : (p :: run).IsChain fun p q => (p.isBlank == q.isBlank) = true) :
    ∀ q ∈ p :: run, q.isBlank = p.isBlank := by
  induction run generalizing p with
  | nil => simp
  | cons q run ih =>
    rw [List.isChain_cons_cons, beq_iff_eq] at h
    intro r hr
    rcases List.mem_cons.mp hr with rfl | hr
    · rfl
    · exact (ih h.2 r hr).trans h.1.symm

theorem alternate_of_isChain {runs : List (List Placed)} {p : Placed} {run : List Placed}
    (hruns : ∀ r ∈ (p :: run) :: runs, r ≠ [] ∧
      r.IsChain fun p q => (p.isBlank == q.isBlank) = true)
    (hchain : ((p :: run) :: runs).IsChain fun a b =>
      ∃ ha hb, ((a.getLast ha).isBlank == (b.head hb).isBlank) = false) :
    Alternate p.isBlank ((p :: run) :: runs) := by
  induction runs generalizing p run with
  | nil => exact ⟨by simp, isBlank_eq_of_isChain (hruns _ List.mem_cons_self).2, trivial⟩
  | cons next runs ih =>
    have hrun := isBlank_eq_of_isChain (hruns _ List.mem_cons_self).2
    refine ⟨by simp, hrun, ?_⟩
    obtain ⟨⟨ha, hb, hdiffer⟩, hrest⟩ := List.isChain_cons_cons.mp hchain
    cases next with
    | nil => exact absurd rfl hb
    | cons q next =>
      have hlast := hrun _ (List.getLast_mem ha)
      have hturn : (!p.isBlank) = q.isBlank := by
        rw [hlast, List.head_cons] at hdiffer
        cases hp : p.isBlank <;> cases hq : q.isBlank <;> simp_all
      rw [hturn]
      exact ih (fun r hr => hruns r (List.mem_cons_of_mem _ hr)) hrest

/-- The runs of a line alternate. -/
theorem alternate_splitBy (p : Placed) (line : List Placed) :
    ∃ blank, Alternate blank ((p :: line).splitBy fun p q => p.isBlank == q.isBlank) := by
  cases hruns : (p :: line).splitBy fun p q => p.isBlank == q.isBlank with
  | nil => exact ⟨true, trivial⟩
  | cons first rest =>
    have hne : first ≠ [] := List.ne_nil_of_mem_splitBy (hruns ▸ List.mem_cons_self)
    obtain ⟨q, run, rfl⟩ := List.exists_cons_of_ne_nil hne
    refine ⟨q.isBlank, alternate_of_isChain ?_ ?_⟩
    · intro r hr
      rw [← hruns] at hr
      exact ⟨List.ne_nil_of_mem_splitBy hr, List.isChain_of_mem_splitBy hr⟩
    · rw [← hruns]
      exact List.isChain_getLast_head_splitBy (fun p q : Placed => p.isBlank == q.isBlank) _

/-- The flag of the first run tells whether it is blank. -/
theorem Alternate.all_isBlank {blank : Bool} {run : List Placed} {rest : List (List Placed)}
    (h : Alternate blank (run :: rest)) : run.all Placed.isBlank = blank := by
  obtain ⟨hne, hrun, -⟩ := h
  obtain ⟨p, run, rfl⟩ := List.exists_cons_of_ne_nil hne
  cases blank with
  | true => exact List.all_eq_true.mpr hrun
  | false => rw [List.all_cons, hrun p List.mem_cons_self, Bool.false_and]

/-- Words of which each but the last one ends in a blank. -/
def Separate (words : List (List Placed)) : Prop :=
  ∀ word ∈ words.dropLast, ∃ p, word.getLast? = some p ∧ p.isBlank = true

theorem separate_nil : Separate [] := List.forall_mem_nil _

theorem separate_singleton (word : List Placed) : Separate [word] := List.forall_mem_nil _

theorem separate_cons_cons {word next : List Placed} {more : List (List Placed)} :
    Separate (word :: next :: more) ↔
      (∃ p, word.getLast? = some p ∧ p.isBlank = true) ∧ Separate (next :: more) := by
  rw [Separate, List.dropLast_cons_cons, List.forall_mem_cons, Separate]

/-- What stands before the first word changes nothing. -/
theorem Separate.append_left {word : List Placed} {more : List (List Placed)}
    (h : Separate (word :: more)) (blanks : List Placed) : Separate ((blanks ++ word) :: more) := by
  cases more with
  | nil => exact separate_singleton _
  | cons next more =>
    obtain ⟨⟨p, hlast, hp⟩, hrest⟩ := separate_cons_cons.mp h
    refine separate_cons_cons.mpr ⟨⟨p, ?_, hp⟩, hrest⟩
    rw [List.getLast?_append, hlast, Option.some_or]

theorem separate_inTwos {runs : List (List Placed)} (h : Alternate false runs) :
    Separate (inTwos runs) := by
  fun_induction inTwos runs with
  | case1 word blanks rest ih =>
    obtain ⟨-, -, hne, hblanks, hrest⟩ := h
    replace ih := ih hrest
    cases htwos : inTwos rest with
    | nil => exact separate_singleton _
    | cons next more =>
      rw [htwos] at ih
      refine separate_cons_cons.mpr
        ⟨⟨blanks.getLast hne, ?_, hblanks _ (List.getLast_mem hne)⟩, ih⟩
      rw [List.getLast?_append, List.getLast?_eq_some_getLast hne, Option.some_or]
  | case2 runs hshort =>
    rcases runs with _ | ⟨word, _ | ⟨blanks, rest⟩⟩
    · exact separate_nil
    · exact separate_singleton word
    · exact absurd rfl (hshort word blanks rest)

/-- The words of a line are separate. -/
theorem separate_wordsOf (line : List Placed) : Separate (wordsOf line) := by
  cases line with
  | nil => exact separate_nil
  | cons p line =>
    obtain ⟨blank, halternate⟩ := alternate_splitBy p line
    unfold wordsOf
    split
    · exact separate_nil
    · rename_i first rest hruns
      rw [hruns] at halternate
      have hfirst := halternate.all_isBlank
      split
      · -- The blanks before the first word are put before it.
        rename_i hblank
        obtain rfl : blank = true := hfirst.symm.trans hblank
        have hseparate := separate_inTwos halternate.2.2
        split
        · exact separate_singleton first
        · rename_i word more htwos
          rw [htwos] at hseparate
          exact hseparate.append_left first
      · rename_i hblank
        obtain rfl : blank = false := hfirst.symm.trans (Bool.eq_false_iff.mpr hblank)
        exact separate_inTwos halternate

/-- Taken one by one, separate words are no wider than the line. -/
theorem sum_textCells_le {words : List (List Placed)} (h : Separate words) :
    (words.map fun word => textCells (chars word)).sum ≤ textCells (chars words.flatten) := by
  induction words with
  | nil => simp [textCells_eq]
  | cons word words ih =>
    cases words with
    | nil => simp
    | cons next more =>
      obtain ⟨⟨p, hlast, hp⟩, hrest⟩ := separate_cons_cons.mp h
      have hjoiner : (chars word).getLast? ≠ some joiner := by
        intro hchar
        rw [chars, List.getLast?_map, hlast, Option.map_some, Option.some_inj] at hchar
        rw [Placed.isBlank, hchar] at hp
        exact absurd hp (by decide)
      have hle := ih hrest
      have hadd := textCells_add_le hjoiner (chars (next :: more).flatten)
      rw [List.map_cons, List.sum_cons, List.flatten_cons, chars_append]
      omega

/-! ## Folding -/

theorem flatten_cut (lengths : List Nat) (line : List Placed) :
    (cut lengths line).flatten = line.take lengths.sum := by
  induction lengths generalizing line with
  | nil => simp [cut]
  | cons n rest ih =>
    rw [cut, List.flatten_cons, ih, List.sum_cons, List.take_add]

/-- A line whose characters take so many cells at most. -/
def Fits (width : Nat) (line : List Placed) : Prop := sumCells (chars line) ≤ width

/-- The last cluster goes on the line, or on one of its own. -/
theorem cut_foldLengths_singleton (hwidth : 2 ≤ width) {before piece : List Placed}
    {current : Cluster} (hlength : current.length = piece.length)
    (hcells : current.cells = sumCells (chars piece)) (hle : current.cells ≤ 2)
    (hbefore : Fits width before) (hpos : 0 < sumCells (chars (before ++ piece))) :
    let pieces := cut (foldLengths width before.length (sumCells (chars before)) [current])
      (before ++ piece)
    pieces.flatten = before ++ piece ∧ ∀ l ∈ pieces, Fits width l := by
  unfold Fits at *
  rw [chars_append, sumCells_append] at hpos
  simp only [foldLengths]
  split
  · rw [if_neg (by omega), cut, cut, cut, hlength]
    simp only [List.take_left, List.drop_left, List.take_length, List.flatten_cons,
      List.flatten_nil, List.append_nil, true_and, List.forall_mem_cons, List.not_mem_nil,
      false_imp_iff, implies_true, and_true]
    exact ⟨hbefore, by omega⟩
  · rw [if_neg (by omega), cut, cut, hlength, ← List.length_append]
    simp only [List.take_length, List.flatten_cons, List.flatten_nil, List.append_nil, true_and,
      List.forall_mem_cons, List.not_mem_nil, false_imp_iff, implies_true, and_true,
      chars_append, sumCells_append]
    omega

/-- A plain text that takes cells is folded into lines that are narrow enough, and nothing of it
is lost. Here `before` is on the line already, and `piece` is the cluster that comes next. -/
theorem cut_foldLengths (hwidth : 2 ≤ width) {before piece rest : List Placed}
    (hrest : Plain (chars rest)) {current : Cluster} (hlength : current.length = piece.length)
    (hcells : current.cells = sumCells (chars piece)) (hle : current.cells ≤ 2)
    (hbefore : Fits width before) (hpos : 0 < sumCells (chars (before ++ (piece ++ rest))))
    (last? : Option Char) :
    let pieces := cut (foldLengths width before.length (sumCells (chars before))
      (clustersAfter current last? (chars rest))) (before ++ (piece ++ rest))
    pieces.flatten = before ++ (piece ++ rest) ∧ ∀ l ∈ pieces, Fits width l := by
  induction rest generalizing before piece current last? with
  | nil =>
    rw [List.append_nil] at hpos ⊢
    exact cut_foldLengths_singleton hwidth hlength hcells hle hbefore hpos
  | cons p rest ih =>
    obtain ⟨hjoiner, hselector, hplain⟩ := hrest.of_cons
    rw [chars_cons, clustersAfter_cons hjoiner hselector]
    split
    · -- The character takes no cells and belongs to the cluster.
      rename_i hzero
      have hpiece : piece ++ p :: rest = (piece ++ [p]) ++ rest := by simp
      rw [hpiece] at hpos ⊢
      refine ih hplain ?_ ?_ ?_ hbefore hpos last?
      · simp [Cluster.extend, hlength]
      · simp [Cluster.extend, hcells, hzero]
      · simpa [Cluster.extend] using hle
    · rw [foldLengths]
      split
      · -- The cluster begins another line.
        have hnext := @ih piece [p] hplain ⟨1, charCells p.char⟩ rfl (by simp)
          (charCells_le_two _) (by rw [Fits]; omega)
          (by simp only [chars_append, chars_cons, sumCells_append, sumCells_cons]; omega)
          (some p.char)
        rw [cut, List.take_left, List.drop_left, hlength, hcells]
        refine ⟨?_, List.forall_mem_cons.mpr ⟨hbefore, hnext.2⟩⟩
        rw [List.flatten_cons]
        exact congrArg (before ++ ·) hnext.1
      · -- The cluster goes on the line.
        have hnext := @ih (before ++ piece) [p] hplain ⟨1, charCells p.char⟩ rfl
          (by simp) (charCells_le_two _)
          (by rw [Fits, chars_append, sumCells_append]; omega)
          (by rw [List.append_assoc]; exact hpos)
          (some p.char)
        rw [List.append_assoc, List.length_append, chars_append, sumCells_append, ← hlength,
          ← hcells] at hnext
        exact hnext

/-- A plain word that takes cells is folded without a loss. -/
theorem folded_spec (hwidth : 2 ≤ width) {word : List Placed} (hplain : Plain (chars word))
    (hpos : 0 < sumCells (chars word)) :
    (folded width word).flatten = word ∧ ∀ l ∈ folded width word, Fits width l := by
  cases word with
  | nil => simp at hpos
  | cons p rest =>
    rw [chars_cons] at hplain
    obtain ⟨last?, hclusters⟩ := hplain.exists_clusters_cons
    rw [folded, chars_cons, hclusters]
    exact @cut_foldLengths width hwidth [] [p] rest hplain.of_cons.2.2 ⟨1, charCells p.char⟩ rfl
      (by simp) (charCells_le_two _) (Nat.zero_le _) hpos last?

theorem length_le_fitting_rest {rest : List Char} (hrest : Plain rest) {current : Cluster}
    (hle : current.cells ≤ width) (last? : Option Char) :
    current.length ≤ (fitting width (clustersAfter current last? rest)).1 := by
  induction rest generalizing current with
  | nil => simp [clustersAfter, fitting, Nat.not_lt.mpr hle]
  | cons c rest ih =>
    obtain ⟨hjoiner, hselector, hplain⟩ := hrest.of_cons
    rw [clustersAfter_cons hjoiner hselector]
    split
    · have := @ih hplain (current.extend 0) (by simpa [Cluster.extend] using hle)
      simp only [Cluster.extend] at this ⊢
      omega
    · simp only [fitting, Nat.not_lt.mpr hle, if_false]
      omega

theorem length_le_fitting_clustersAfter {body rest : List Char} (hbody : Plain body)
    (hrest : Plain rest) {current : Cluster} (hle : current.cells + sumCells body ≤ width)
    (last? : Option Char) :
    current.length + body.length ≤
      (fitting width (clustersAfter current last? (body ++ rest))).1 := by
  induction body generalizing current width last? with
  | nil => exact length_le_fitting_rest hrest hle last?
  | cons c body ih =>
    obtain ⟨hjoiner, hselector, hplain⟩ := hbody.of_cons
    rw [sumCells_cons] at hle
    rw [List.cons_append, clustersAfter_cons hjoiner hselector]
    split
    · have := @ih width hplain (current.extend 0) (by simp only [Cluster.extend]; omega) last?
      simp only [Cluster.extend, List.length_cons] at this ⊢
      omega
    · have := @ih (width - current.cells) hplain ⟨1, charCells c⟩ (by simp only; omega) (some c)
      have hfits : ¬ width < current.cells := by omega
      simp only [fitting, List.length_cons, if_neg hfits] at this ⊢
      omega

/-- What fits at the beginning of a plain text fits where the text is cut off. -/
theorem length_le_fitting {body rest : List Char} (hplain : Plain (body ++ rest))
    (hle : sumCells body ≤ width) :
    body.length ≤ (fitting width (clusters (body ++ rest))).1 := by
  cases body with
  | nil => exact Nat.zero_le _
  | cons c body =>
    rw [List.cons_append] at hplain
    obtain ⟨last?, hclusters⟩ := hplain.exists_clusters_cons
    have hrest := hplain.of_cons.2.2
    rw [List.cons_append, hclusters, List.length_cons, Nat.add_comm]
    rw [sumCells_cons] at hle
    exact @length_le_fitting_clustersAfter width body rest
      (hrest.of_subset (List.subset_append_left _ _))
      (hrest.of_subset (List.subset_append_right _ _)) ⟨1, charCells c⟩ hle last?

/-! ## Filling lines -/

/-- The lines of a filling. -/
def Filling.lines (f : Filling) : List (List Placed) := f.full ++ [f.line]

theorem broken_eq (h : wordsOf line ≠ []) :
    broken width line = ((wordsOf line).foldl (Filling.add width) {}).lines := by
  unfold broken
  split
  · exact absurd ‹_› h
  · rfl

theorem textCells_withoutTail_le (word : List Placed) :
    textCells (chars (withoutTail word)) ≤ textCells (chars word) := by
  obtain ⟨blanks, hword, -⟩ := exists_withoutTail word
  conv_rhs => rw [hword, chars_append]
  exact textCells_le_append _ _

/-- Words that fit on the line together are put there. -/
theorem foldl_add_eq {words : List (List Placed)} {f : Filling}
    (h : f.cells + (words.map fun word => textCells (chars word)).sum ≤ width) :
    (words.foldl (Filling.add width) f).lines = f.full ++ [f.line ++ words.flatten] := by
  induction words generalizing f with
  | nil => simp [Filling.lines]
  | cons word words ih =>
    rw [List.map_cons, List.sum_cons] at h
    have hneeded := textCells_withoutTail_le word
    have hadd : f.add width word =
        { f with line := f.line ++ word, cells := f.cells + textCells (chars word) } := by
      rw [Filling.add, if_pos (by omega)]
    rw [List.foldl_cons, hadd, ih (by simp only; omega)]
    simp

/-- A line that fits is not broken. -/
theorem broken_eq_self (h : textCells (chars line) ≤ width) : broken width line = [line] := by
  by_cases hwords : wordsOf line = []
  · simp only [broken, hwords]
  · have hsum := sum_textCells_le (separate_wordsOf line)
    rw [flatten_wordsOf hwords] at hsum
    rw [broken_eq hwords, foldl_add_eq (by simp only; omega), flatten_wordsOf hwords]
    simp

/-- The lines before a word that begins another line. -/
def Filling.closed (f : Filling) : List (List Placed) :=
  if f.line = [] then f.full else f.full ++ [f.line]

theorem Filling.flatten_closed (f : Filling) : f.closed.flatten = f.lines.flatten := by
  unfold Filling.closed
  split <;> simp_all [Filling.lines]

theorem Filling.closed_subset (f : Filling) : f.closed ⊆ f.lines := by
  unfold Filling.closed Filling.lines
  split
  · exact List.subset_append_left _ _
  · exact List.Subset.refl _

/-- A word goes on the line, or begins another line, or is folded where it is too wide for any. -/
theorem Filling.add_cases (width : Nat) (f : Filling) (word : List Placed) :
    (f.cells + textCells (chars (withoutTail word)) ≤ width ∧
      f.add width word = ⟨f.full, f.line ++ word, f.cells + textCells (chars word)⟩) ∨
    (textCells (chars (withoutTail word)) ≤ width ∧
      f.add width word = ⟨f.closed, word, textCells (chars word)⟩) ∨
    (width < textCells (chars (withoutTail word)) ∧
      f.add width word = ⟨f.closed ++ (folded width word).dropLast, (folded width word).getLastD [],
        textCells (chars ((folded width word).getLastD []))⟩) := by
  by_cases hfits : f.cells + textCells (chars (withoutTail word)) ≤ width
  · exact .inl ⟨hfits, if_pos hfits⟩
  · by_cases hwide : width < textCells (chars (withoutTail word))
    · exact .inr (.inr ⟨hwide, (if_neg hfits).trans (if_pos hwide)⟩)
    · exact .inr (.inl ⟨Nat.not_lt.mp hwide, (if_neg hfits).trans (if_neg hwide)⟩)

theorem dropLast_concat_getLastD {pieces : List (List Placed)} (h : pieces ≠ []) :
    pieces.dropLast ++ [pieces.getLastD []] = pieces := by
  cases pieces using List.reverseRecOn <;> simp_all

theorem flatten_dropLast_concat (pieces : List (List Placed)) :
    (pieces.dropLast ++ [pieces.getLastD []]).flatten = pieces.flatten := by
  cases pieces using List.reverseRecOn <;> simp

theorem flatten_folded_begins (width : Nat) (word : List Placed) :
    (folded width word).flatten <+: word := by
  rw [folded, flatten_cut]
  exact List.take_prefix _ _

/-- Nothing is on the lines but what was put there. -/
theorem flatten_add_sublist (f : Filling) (word : List Placed) :
    (f.add width word).lines.flatten.Sublist (f.lines.flatten ++ word) := by
  rcases f.add_cases width word with ⟨-, hadd⟩ | ⟨-, hadd⟩ | ⟨-, hadd⟩
  · simp [hadd, Filling.lines]
  · rw [hadd, Filling.lines, List.flatten_append, f.flatten_closed]
    simp
  · rw [hadd, Filling.lines, List.append_assoc, List.flatten_append, f.flatten_closed,
      flatten_dropLast_concat]
    exact (flatten_folded_begins width word).sublist.append_left _

theorem flatten_broken_sublist (width : Nat) (line : List Placed) :
    (broken width line).flatten.Sublist line := by
  by_cases hwords : wordsOf line = []
  · simp [broken, hwords]
  · have hfold (words : List (List Placed)) (f : Filling) :
        (words.foldl (Filling.add width) f).lines.flatten.Sublist
          (f.lines.flatten ++ words.flatten) := by
      induction words generalizing f with
      | nil => simp
      | cons word words ih =>
        refine (ih (f.add width word)).trans ?_
        rw [List.flatten_cons, ← List.append_assoc]
        exact (flatten_add_sublist f word).append_right _
    have hlines := hfold (wordsOf line) {}
    rw [← broken_eq hwords, flatten_wordsOf hwords] at hlines
    simpa [Filling.lines] using hlines

/-- A line that fits but for blanks at its end. -/
def Narrow (width : Nat) (line : List Placed) : Prop :=
  ∃ body blanks, line = body ++ blanks ∧ (∀ p ∈ blanks, p.isBlank = true) ∧ Fits width body

theorem Fits.narrow (h : Fits width line) : Narrow width line := ⟨line, [], by simp, by simp, h⟩

/-- Lines that hold what was put there so far, and are narrow. -/
structure Filling.Holds (width : Nat) (f : Filling) (done : List Placed) : Prop where
  flatten_eq : f.lines.flatten = done
  narrow : ∀ l ∈ f.lines, Narrow width l
  cells_eq : f.cells = sumCells (chars f.line)

/-- A word may stand on a line that it fits on but for its tail. -/
theorem narrow_append {word : List Placed} (h : Fits width (line ++ withoutTail word)) :
    Narrow width (line ++ word) := by
  obtain ⟨blanks, htail, hblanks⟩ := exists_withoutTail word
  refine ⟨line ++ withoutTail word, blanks, ?_, hblanks, h⟩
  rw [List.append_assoc, ← htail]

namespace Filling.Holds

variable {f g : Filling} {done word : List Placed} {pieces : List (List Placed)}

/-- Pieces that begin after the closed lines come after what was put there. -/
theorem next (h : f.Holds width done) (hlines : g.lines = f.closed ++ pieces)
    (hpieces : ∀ l ∈ pieces, Narrow width l) (hcells : g.cells = sumCells (chars g.line)) :
    g.Holds width (done ++ pieces.flatten) where
  flatten_eq := by rw [hlines, List.flatten_append, f.flatten_closed, h.flatten_eq]
  narrow l hl := by
    rw [hlines] at hl
    rcases List.mem_append.mp hl with hl | hl
    · exact h.narrow l (f.closed_subset hl)
    · exact hpieces l hl
  cells_eq := hcells

/-- A word that is too wide is folded into pieces. -/
theorem next_folded (hwidth : 2 ≤ width) (h : f.Holds width done) (hword : Plain (chars word))
    (hpos : 0 < sumCells (chars word)) (hlines : g.lines = f.closed ++ folded width word)
    (hline : g.line ∈ folded width word) (hcells : g.cells = textCells (chars g.line)) :
    g.Holds width (done ++ word) := by
  obtain ⟨hflatten, hfits⟩ := folded_spec hwidth hword hpos
  have hplain : Plain (chars g.line) := by
    have hsublist := List.sublist_flatten_of_mem hline
    rw [hflatten] at hsublist
    exact hword.of_subset (hsublist.map Placed.char).subset
  have hnext := h.next hlines (fun l hl => (hfits l hl).narrow) (hcells.trans hplain.textCells_eq)
  rwa [hflatten] at hnext

theorem add (hwidth : 2 ≤ width) (h : f.Holds width done) (hword : Plain (chars word)) :
    (f.add width word).Holds width (done ++ word) := by
  have hbody : Plain (chars (withoutTail word)) := by
    obtain ⟨blanks, htail, -⟩ := exists_withoutTail word
    rw [htail, chars_append] at hword
    exact hword.of_subset (List.subset_append_left _ _)
  rcases f.add_cases width word with ⟨hle, hadd⟩ | ⟨hle, hadd⟩ | ⟨hlt, hadd⟩
  · rw [hbody.textCells_eq, h.cells_eq] at hle
    rw [hadd]
    refine ⟨?_, ?_, ?_⟩
    · simp [← h.flatten_eq, Filling.lines]
    · intro l hl
      rcases List.mem_append.mp hl with hl | hl
      · exact h.narrow l (List.mem_append_left _ hl)
      · rw [List.mem_singleton.mp hl]
        exact narrow_append (by rwa [Fits, chars_append, sumCells_append])
    · simp [h.cells_eq, hword.textCells_eq]
  · rw [hbody.textCells_eq] at hle
    have hnarrow : Narrow width word := @narrow_append [] width word hle
    have hnext := @next width f (f.add width word) done [word] h (by rw [hadd, Filling.lines])
      (by simpa using hnarrow) (by rw [hadd]; exact hword.textCells_eq)
    rwa [List.flatten_singleton] at hnext
  · have hwide := hlt.trans_le (textCells_withoutTail_le word)
    rw [hword.textCells_eq] at hwide
    have hne : folded width word ≠ [] := by
      intro hnil
      have hflatten := (folded_spec hwidth hword (by omega)).1
      rw [hnil, List.flatten_nil] at hflatten
      simp [← hflatten] at hwide
    have hpieces := dropLast_concat_getLastD hne
    have hline := List.mem_append_right (folded width word).dropLast
      (List.mem_singleton_self ((folded width word).getLastD []))
    rw [hpieces] at hline
    rw [hadd]
    refine h.next_folded hwidth hword (by omega) ?_ hline rfl
    rw [Filling.lines, List.append_assoc, hpieces]

end Filling.Holds

theorem Filling.Holds.foldl (hwidth : 2 ≤ width) {f : Filling} {done : List Placed}
    {words : List (List Placed)} (h : f.Holds width done)
    (hwords : ∀ word ∈ words, Plain (chars word)) :
    (words.foldl (Filling.add width) f).Holds width (done ++ words.flatten) := by
  induction words generalizing f done with
  | nil => simpa using h
  | cons word words ih =>
    rw [List.flatten_cons, ← List.append_assoc]
    exact ih (h.add hwidth (hwords word List.mem_cons_self))
      fun w hw => hwords w (List.mem_cons_of_mem _ hw)

/-- A plain line is broken into narrow lines, and nothing of it is lost. -/
theorem broken_spec (hwidth : 2 ≤ width) (hline : Plain (chars line))
    (hwords : wordsOf line ≠ []) :
    (broken width line).flatten = line ∧ ∀ l ∈ broken width line, Narrow width l := by
  have hflatten := flatten_wordsOf hwords
  have hplain : ∀ word ∈ wordsOf line, Plain (chars word) := by
    intro word hword
    have hsublist := List.sublist_flatten_of_mem hword
    rw [hflatten] at hsublist
    exact hline.of_subset (hsublist.map Placed.char).subset
  have hempty : Filling.Holds width {} [] :=
    ⟨rfl, fun l hl => by
      obtain rfl := List.mem_singleton.mp hl
      exact Fits.narrow (Nat.zero_le _), rfl⟩
  have hholds := hempty.foldl hwidth hplain
  rw [hflatten, List.nil_append] at hholds
  rw [broken_eq hwords]
  exact ⟨hholds.flatten_eq, hholds.narrow⟩

end PenPlot.Console
