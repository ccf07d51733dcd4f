-- Blanks at the edges of lines. A text and its retained lines are two ways to say the same:
-- the lines of a longer text are those of its parts, none of them starts or ends with a
-- blank, and joined they come back. So blanks that are put in where a line starts or ends
-- leave the retained lines as they are.
import Mathlib.Data.List.DropRight
import Mathlib.Logic.Relation
import PenPlot.Proofs.Text.Lines

namespace PenPlot.Text

variable {blanks line text : List Char}

/-! ## Splitting -/

/-- What is added without a separator goes to the last piece. -/
theorem splitAt_append_piece {sep : Char} {more : List Char} (hmore : sep ∉ more)
    (text : List Char) : ∃ pieces last, splitAt sep text = pieces ++ [last] ∧
      splitAt sep (text ++ more) = pieces ++ [last ++ more] := by
  induction text with
  | nil =>
    refine ⟨[], [], rfl, ?_⟩
    rw [splitAt_eq_splitOn]
    exact List.splitOn_eq_singleton hmore
  | cons c rest ih =>
    obtain ⟨pieces, last, hrest, hlonger⟩ := ih
    rw [List.cons_append, splitAt, splitAt, hrest, hlonger]
    cases pieces with
    | nil =>
      by_cases hc : c = sep
      · exact ⟨[[]], last, by simp [hc], by simp [hc]⟩
      · exact ⟨[], c :: last, by simp [hc], by simp [hc]⟩
    | cons piece pieces =>
      by_cases hc : c = sep
      · exact ⟨[] :: piece :: pieces, last, by simp [hc], by simp [hc]⟩
      · exact ⟨(c :: piece) :: pieces, last, by simp [hc], by simp [hc]⟩

/-! ## The lines of the parts -/

theorem retained_append (lines more : List (List Char)) :
    retained (lines ++ more) = retained lines ++ retained more := by
  unfold retained
  rw [List.map_append, List.filter_append]

/-- The lines of two texts with a line feed between them are those of the one and the other. -/
theorem retainedLines_append (a b : List Char) :
    retainedLines (a ++ '\n' :: b) = retainedLines a ++ retainedLines b := by
  change retained _ = retained _ ++ retained _
  rw [splitAt_eq_splitOn, List.splitOn_append_cons_self, retained_append, splitAt_eq_splitOn,
    splitAt_eq_splitOn]

/-! ## Lines without blanks at their ends -/

/-- A line that trimming leaves as it is, and that is neither empty nor more than one line. -/
structure IsRetained (line : List Char) : Prop where
  nonempty : line ≠ []
  oneLine : '\n' ∉ line
  start : ∀ c ∈ line.head?, isBlank c = false
  stop : ∀ c ∈ line.getLast?, isBlank c = false

theorem head_trim {c : Char} (h : c ∈ (trim line).head?) : isBlank c = false := by
  have hprefix : trim line <+: line.dropWhile isBlank := List.rdropWhile_prefix _ _
  have hhead := List.head?_dropWhile_not isBlank line
  have hc : (line.dropWhile isBlank).head? = some c := by
    obtain ⟨more, hmore⟩ := hprefix
    rw [← hmore, List.head?_append, h, Option.some_or]
  rw [hc] at hhead
  exact hhead

theorem getLast_trim {c : Char} (h : c ∈ (trim line).getLast?) : isBlank c = false := by
  obtain ⟨hne, rfl⟩ := List.mem_getLast?_eq_getLast h
  exact Bool.eq_false_iff.mpr (List.rdropWhile_last_not isBlank _ hne)

theorem mem_of_mem_trim {c : Char} (h : c ∈ trim line) : c ∈ line :=
  (List.dropWhile_suffix isBlank).subset ((List.rdropWhile_prefix isBlank _).subset h)

theorem isRetained_of_mem (h : line ∈ retainedLines text) : IsRetained line := by
  obtain ⟨hmem, hne⟩ := List.mem_filter.mp h
  obtain ⟨piece, hpiece, rfl⟩ := List.mem_map.mp hmem
  exact ⟨of_decide_eq_true hne, fun hfeed => not_mem_of_mem_splitAt hpiece (mem_of_mem_trim hfeed),
    fun _ => head_trim, fun _ => getLast_trim⟩

theorem IsRetained.trim_eq (h : IsRetained line) : trim line = line := by
  have hstart : line.dropWhile isBlank = line := by
    cases line with
    | nil => rfl
    | cons c rest => exact List.dropWhile_cons_of_neg (by simp [h.start c rfl])
  have hstop := h.stop
  unfold trim
  rw [trimBy_eq, hstart, List.rdropWhile_eq_self_iff]
  intro hne
  rw [h.stop _ (List.getLast?_eq_getLast_of_ne_nil hne)]
  exact Bool.false_ne_true

theorem retained_eq_self {lines : List (List Char)} (h : ∀ line ∈ lines, IsRetained line) :
    retained lines = lines := by
  induction lines with
  | nil => rfl
  | cons line rest ih =>
    obtain ⟨hline, hrest⟩ := List.forall_mem_cons.mp h
    rw [retained_cons, hline.trim_eq, if_neg hline.nonempty, ih hrest]

/-- Lines that are joined by line feeds are split into themselves. -/
theorem splitAt_join {lines : List (List Char)} (h : ∀ line ∈ lines, '\n' ∉ line)
    (hne : lines ≠ []) : splitAt '\n' (List.intercalate ['\n'] lines) = lines := by
  rw [splitAt_eq_splitOn, List.splitOn_intercalate _ h hne]

/-- The retained lines of retained lines are these lines again. -/
theorem retainedLines_join (text : List Char) :
    retainedLines (List.intercalate ['\n'] (retainedLines text)) = retainedLines text := by
  have hlines : ∀ line ∈ retainedLines text, IsRetained line := fun line => isRetained_of_mem
  by_cases hne : retainedLines text = []
  · rw [hne]
    decide
  · change retained (splitAt '\n' (List.intercalate ['\n'] (retainedLines text))) = _
    rw [splitAt_join (fun line hline => (hlines line hline).oneLine) hne, retained_eq_self hlines]

/-! ## Blanks at the edges -/

theorem trim_blank_cons {c : Char} (hc : isBlank c = true) (line : List Char) :
    trim (c :: line) = trim line := by
  unfold trim trimBy
  rw [List.dropWhile_cons_of_pos hc]

theorem trim_append_blanks (hblanks : ∀ c ∈ blanks, isBlank c = true) (line : List Char) :
    trim (line ++ blanks) = trim line := by
  have hreverse : ∀ c ∈ blanks.reverse, isBlank c = true := fun c hc =>
    hblanks c (List.mem_reverse.mp hc)
  unfold trim trimBy
  rw [List.dropWhile_append]
  by_cases hnone : (line.dropWhile isBlank).isEmpty = true
  · rw [if_pos hnone, List.isEmpty_iff.mp hnone, List.dropWhile_eq_nil_iff.mpr hblanks]
  · rw [if_neg hnone, List.reverse_append, List.dropWhile_append_of_pos hreverse]

/-- Blanks in front of a text. -/
theorem retainedLines_blanks_append (hblanks : ∀ c ∈ blanks, isBlank c = true) (b : List Char) :
    retainedLines (blanks ++ b) = retainedLines b := by
  induction blanks with
  | nil => rfl
  | cons c rest ih =>
    obtain ⟨hc, hrest⟩ := List.forall_mem_cons.mp hblanks
    rw [← ih hrest, List.cons_append]
    by_cases hfeed : c = '\n'
    · rw [hfeed]
      exact retainedLines_append [] (rest ++ b)
    · change retained _ = retained _
      rw [splitAt]
      cases hsplit : splitAt '\n' (rest ++ b) with
      | nil => exact absurd hsplit (splitAt_ne_nil _ _)
      | cons piece pieces =>
        simp only [hfeed, if_false]
        rw [retained_cons, retained_cons, trim_blank_cons hc]

theorem retainedLines_blanks (hblanks : ∀ c ∈ blanks, isBlank c = true) :
    retainedLines blanks = [] := by
  have h := retainedLines_blanks_append hblanks []
  rw [List.append_nil] at h
  exact h

/-- Blanks after a text: those up to the first line feed belong to its last line. -/
theorem retainedLines_append_blanks (hblanks : ∀ c ∈ blanks, isBlank c = true) (a : List Char) :
    retainedLines (a ++ blanks) = retainedLines a := by
  have hlast : ∀ more : List Char, (∀ c ∈ more, isBlank c = true) → '\n' ∉ more →
      retainedLines (a ++ more) = retainedLines a := by
    intro more hmore hfeed
    obtain ⟨pieces, last, ha, hlonger⟩ := splitAt_append_piece hfeed a
    change retained _ = retained _
    rw [ha, hlonger, retained_append, retained_append, retained_cons, retained_cons,
      trim_append_blanks hmore]
  by_cases hfeed : '\n' ∈ blanks
  · obtain ⟨first, others, rfl, hfirst⟩ := List.eq_append_cons_of_mem hfeed
    obtain ⟨hblank, hothers⟩ := List.forall_mem_append.mp hblanks
    rw [← List.append_assoc, retainedLines_append, hlast first hblank hfirst,
      retainedLines_blanks (List.forall_mem_cons.mp hothers).2, List.append_nil]
  · exact hlast blanks hblanks hfeed

/-! ## Insertions -/

/-- Whether a line starts or ends between two parts of a text. -/
def IsEdge (before after : List Char) : Prop :=
  before = [] ∨ before.getLast? = some '\n' ∨ after = [] ∨ after.head? = some '\n'

instance (before after : List Char) : Decidable (IsEdge before after) :=
  inferInstanceAs (Decidable (_ ∨ _ ∨ _ ∨ _))

/-- Blanks are put in where a line starts or ends. Line feeds may be among them, so these may
also be whole lines of blanks. -/
inductive Insertion : List Char → List Char → Prop
  | blanks (before blanks after : List Char) (hedge : IsEdge before after)
      (hblanks : blanks.all isBlank = true) :
      Insertion (before ++ after) (before ++ blanks ++ after)

/-- A text becomes another one by any number of insertions. -/
def Padded : List Char → List Char → Prop := Relation.ReflTransGen Insertion

theorem Insertion.retainedLines_eq {s t : List Char} (h : Insertion s t) :
    retainedLines t = retainedLines s := by
  cases h with
  | blanks before blanks after hedge hall =>
    have hblanks := List.all_eq_true.mp hall
    rcases hedge with rfl | hbefore | rfl | hafter
    · exact retainedLines_blanks_append hblanks after
    · obtain ⟨lines, rfl⟩ := List.getLast?_eq_some_iff.mp hbefore
      rw [List.append_assoc, List.append_assoc, List.append_assoc, List.singleton_append,
        List.singleton_append, retainedLines_append, retainedLines_append,
        retainedLines_blanks_append hblanks]
    · rw [List.append_nil, List.append_nil, retainedLines_append_blanks hblanks]
    · obtain ⟨lines, rfl⟩ := List.head?_eq_some_iff.mp hafter
      rw [retainedLines_append, retainedLines_append, retainedLines_append_blanks hblanks]

theorem Padded.retainedLines_eq {s t : List Char} (h : Padded s t) :
    retainedLines t = retainedLines s := by
  induction h with
  | refl => rfl
  | tail _ hstep ih => exact hstep.retainedLines_eq.trans ih

end PenPlot.Text
