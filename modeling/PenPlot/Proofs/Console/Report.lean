-- The reports. Of the summary of a compilation only the line with the path can fail, and the report
-- of an error shows its message and its details where these are literal.
import PenPlot.Console.Report
import PenPlot.Proofs.Console.Markup
import PenPlot.Proofs.Console.Wrapping
import PenPlot.Proofs.Number.Decimal
import PenPlot.Proofs.Number.Double

namespace PenPlot.Console

variable {cs shown style : List Char} {spans : List Span} {text : String}

/-! ## Printing -/

theorem printSet_eq {set : SetText} (h : setText cs = .ok set)
    (hspans : ∀ s ∈ spans, s.fault? = none) :
    printSet cs spans = ⟨String.ofList (set.shown ++ ['\n']), none⟩ := by
  have hfault : styleFault? set spans = none := by
    rw [styleFault?, List.findSome?_eq_none_iff]
    intro s hs
    rw [hspans s hs]
    rfl
  rw [printSet, h]
  simp only [hfault]

theorem printMarked_eq (h : shownOf text.toList = .ok (shown, spans)) :
    printMarked text = printSet shown spans := by
  rw [printMarked, shown_eq, h]

/-- A short text without tabs is printed as it is, if it is printed at all. -/
theorem printSet_of_short (htab : '\t' ∉ cs) (h : 2 * cs.length ≤ lineWidth)
    (hprinted : (printSet cs spans).error? = none) :
    printSet cs spans = ⟨String.ofList (cs ++ ['\n']), none⟩ := by
  obtain ⟨set, hset, hshown⟩ := exists_setText_of_short htab h
  unfold printSet at hprinted ⊢
  rw [hset] at hprinted ⊢
  simp only at hprinted ⊢
  split at hprinted
  · cases hprinted
  · rw [hshown]

theorem printMarked_of_short (hshown : shownOf text.toList = .ok (cs, spans)) (htab : '\t' ∉ cs)
    (h : 2 * cs.length ≤ lineWidth) (hprinted : (printMarked text).error? = none) :
    printMarked text = ⟨String.ofList (cs ++ ['\n']), none⟩ := by
  rw [printMarked_eq hshown] at hprinted ⊢
  exact printSet_of_short htab h hprinted

/-- A style that is known brings up no fault. -/
theorem IsStyle.fault?_eq (h : IsStyle style) {s : Span} (hs : s.style = style) :
    s.fault? = none := by
  have hknown := h.known
  unfold Span.fault?
  rw [hs]
  split
  · rename_i hfault
    rw [hfault] at hknown
    cases hknown
  · rfl

/-! ## Printouts one after the other -/

theorem error?_andThen (a b : Printout) : (a.andThen b).error? = a.error?.or b.error? := by
  unfold Printout.andThen
  split <;> simp_all

theorem error?_all_cons (p : Printout) (parts : List Printout) :
    (Printout.all (p :: parts)).error? = p.error?.or (Printout.all parts).error? :=
  error?_andThen p (Printout.all parts)

theorem all_cons {p : Printout} (h : p.error? = none) (parts : List Printout) :
    Printout.all (p :: parts) =
      ⟨p.text ++ (Printout.all parts).text, (Printout.all parts).error?⟩ := by
  rw [Printout.all, List.foldr_cons, Printout.andThen, h]
  rfl

/-! ## Lines that are always printed -/

/-- A character without a meaning that joins nothing. -/
def isCalm (c : Char) : Bool := isMeaningless c && c != joiner

/-- Whether all characters of a text are calm. -/
def calm (text : String) : Bool := text.toList.all isCalm

@[simp] theorem calm_append (a b : String) : calm (a ++ b) = (calm a && calm b) := by
  simp [calm]

theorem isCalm_of_isDigit {c : Char} (h : c.isDigit = true) : isCalm c = true := by
  have hne (d : Char) (hd : d.isDigit = false) : c ≠ d := by
    rintro rfl
    rw [h] at hd
    cases hd
  have hdropped : isDropped c = false := by
    have hge : 48 ≤ c.toNat := by
      simp only [Char.isDigit, Bool.and_eq_true, decide_eq_true_eq, ge_iff_le,
        UInt32.le_iff_toNat_le] at h
      exact h.1
    rw [isDropped, List.contains_eq_mem, decide_eq_false_iff_not]
    intro hmem
    simp only [List.mem_cons, List.not_mem_nil, or_false] at hmem
    omega
  simp [isCalm, isMeaningless, hne '[' (by decide), hne '\\' (by decide), hne ':' (by decide),
    hne joiner (by decide), hdropped]

theorem literal_of_calm (h : calm text = true) : Literal text.toList :=
  literal_of_forall fun c hc => by
    have hcalm := List.all_eq_true.mp h c hc
    rw [isCalm, Bool.and_eq_true] at hcalm
    exact hcalm.1

theorem not_mem_of_calm (h : calm text = true) {c : Char} (hc : isCalm c = false) :
    c ∉ text.toList := by
  intro hmem
  rw [List.all_eq_true.mp h c hmem] at hc
  cases hc

theorem count_joiner_of_calm (h : calm text = true) : text.toList.count joiner = 0 :=
  List.count_eq_zero.mpr (not_mem_of_calm h (by decide))

theorem exists_setText_of_calm (h : calm text = true) : ∃ set, setText text.toList = .ok set :=
  exists_setText_of_count (le_of_eq_of_le (count_joiner_of_calm h) zero_le_one)

/-- A calm text is printed. -/
theorem error?_printMarked_of_calm (h : calm text = true) : (printMarked text).error? = none := by
  have hliteral := literal_of_calm h
  obtain ⟨set, hset⟩ := exists_setText_of_calm h
  have hshown := hliteral.noTag.shownOf_eq
  rw [hliteral.shownPiece_eq] at hshown
  rw [printMarked_eq hshown, printSet_eq hset (by simp)]

/-- A calm text is printed after a styled stretch. -/
theorem error?_printMarked_of_styled {before inner after : String} (hstyle : IsStyle style)
    (hbefore : calm before = true) (hinner : calm inner = true) (hafter : calm after = true)
    (htext : text.toList = styled style before.toList inner.toList after.toList) :
    (printMarked text).error? = none := by
  have hliteral := literal_of_calm hafter
  have hshown := shownOf_styled hstyle
    ⟨not_mem_of_calm hbefore (by decide), not_mem_of_calm hbefore (by decide)⟩
    (noTag_of_not_mem (not_mem_of_calm hinner (by decide)) _)
    (fun hlast => not_mem_of_calm hinner (by decide) (List.mem_of_getLast? hlast)) hliteral.noTag
  rw [hliteral.shownPiece_eq, (literal_of_calm hbefore).shownPiece_eq,
    (literal_of_calm hinner).shownPiece_eq, ← htext] at hshown
  obtain ⟨set, hset⟩ :=
    @exists_setText_of_count (before.toList ++ inner.toList ++ after.toList) (by
      rw [List.count_append, List.count_append, count_joiner_of_calm hbefore,
        count_joiner_of_calm hinner, count_joiner_of_calm hafter]
      exact Nat.zero_le 1)
  rw [printMarked_eq hshown, printSet_eq hset (by simpa using hstyle.fault?_eq rfl)]

/-- A calm text is printed as it is. -/
theorem error?_printPlain_of_calm (h : calm text = true) : (printPlain text).error? = none := by
  have hfilter : text.toList.filter (!isDropped ·) = text.toList := by
    rw [List.filter_eq_self]
    intro c hc
    rw [(literal_of_calm h).noDropped c hc]
    rfl
  obtain ⟨set, hset⟩ := exists_setText_of_calm h
  rw [printPlain, hfilter, printSet_eq hset (by simp)]

/-- The styles of the reports. -/
def reportStyles : List String := ["bold", "bold green", "bold red", "yellow"]

theorem isStyle_of_mem : ∀ style ∈ reportStyles, IsStyle style.toList := by decide +kernel

theorem calm_fixed (places : Nat) (x : Float) : calm (Number.fixed places x) = true := by
  refine List.all_eq_true.mpr fun c hc => ?_
  rcases Number.mem_fixed hc with hdigit | hword
  · exact isCalm_of_isDigit hdigit
  · exact List.all_eq_true.mp (by decide : ['-', '.', 'n', 'a', 'i', 'f'].all isCalm = true) c hword

theorem calm_repr (n : Nat) : calm n.repr = true := by
  refine List.all_eq_true.mpr fun c hc => isCalm_of_isDigit ?_
  rw [Nat.repr, String.toList_ofList] at hc
  exact Nat.isDigit_of_mem_toDigits (by decide) (by decide) hc

theorem calm_toString_int (n : Int) : calm (toString n) = true := by
  cases n with
  | ofNat n => exact calm_repr n
  | negSucc n =>
    have hsign : calm "-" = true := by decide
    change calm ("-" ++ (n + 1).repr) = true
    rw [calm_append, hsign, calm_repr, Bool.and_self]

/-- A finite time has a text. -/
theorem exists_duration {seconds : Float} (h : seconds.isFinite = true) :
    ∃ time, duration seconds = .ok time ∧ calm time = true := by
  have hms : calm "ms" = true := by decide
  have hs : calm "s" = true := by decide
  have hm : calm "m " = true := by decide
  unfold duration
  split
  · exact ⟨_, rfl, by simp [calm_fixed, hms]⟩
  · split
    · exact ⟨_, rfl, by simp [calm_fixed, hs]⟩
    · obtain ⟨d, hd⟩ := (Number.isFinite_iff seconds).mp h
      rw [hd]
      have hpointed (places units : Nat) :
          calm (String.ofList (Number.pointed places units)) = true := by
        refine List.all_eq_true.mpr fun c hc => ?_
        rw [String.toList_ofList] at hc
        rcases Number.mem_pointed hc with hdigit | rfl
        · exact isCalm_of_isDigit hdigit
        · decide
      exact ⟨_, rfl, by simp [calm_repr, hpointed, hm, hs]⟩

theorem error?_timeLine {time : String} (h : calm time = true) : (timeLine time).error? = none := by
  have hin : calm " in " = true := by decide
  have hstyle := isStyle_of_mem "bold green" (by simp [reportStyles])
  refine @error?_printMarked_of_styled _ _ "\n" "✓ Complete" (" in " ++ time) hstyle (by decide)
    (by decide) (by simp [h, hin]) ?_
  simp [styled]

theorem error?_glyphLine {traced skipped : String} (htraced : calm traced = true)
    (hskipped : calm skipped = true) : (glyphLine traced skipped).error? = none := by
  have hindent : calm "  " = true := by decide
  have hmiddle : calm " glyphs traced · " = true := by decide
  have hend : calm " skipped" = true := by decide
  exact error?_printMarked_of_calm (by simp [htraced, hskipped, hindent, hmiddle, hend])

theorem error?_header {version : String} (h : calm version = true) :
    (header version).error? = none := by
  have hv : calm " v" = true := by decide
  have hstyle := isStyle_of_mem "bold" (by simp [reportStyles])
  have htitle : (printMarked ("\n[bold]Plottext[/bold] v" ++ version)).error? = none := by
    refine @error?_printMarked_of_styled _ _ "\n" "Plottext" (" v" ++ version) hstyle (by decide)
      (by decide) (by simp [h, hv]) ?_
    simp [styled]
  have hrule : calm (String.ofList (List.replicate 44 '─')) = true := by
    rw [calm, String.toList_ofList, List.all_replicate]
    decide
  rw [header, error?_all_cons, error?_all_cons, htitle, error?_printMarked_of_calm hrule]
  rfl

theorem error?_step {message : String} (h : calm message = true) : (step message).error? = none :=
  error?_printMarked_of_calm <| by
    have hmark : calm "\n▸ " = true := by decide
    rw [calm_append, hmark, h, Bool.and_self]

theorem error?_profileInfo {profile font : String} {fontSize : Float}
    (hprofile : calm profile = true) (hfont : calm font = true)
    (hsize : calm (Number.general fontSize) = true) (steps : Int) :
    (profileInfo profile font fontSize steps).error? = none := by
  have hindent : calm "  " = true := by decide
  have hopen : calm " (" = true := by decide
  have hclose : calm ")" = true := by decide
  have hunit : calm " mm em · " = true := by decide
  have hsteps : calm " curve steps" = true := by decide
  have hnames : (profileLine profile font).error? = none :=
    error?_printPlain_of_calm (by simp [hindent, hopen, hclose, hprofile, hfont])
  have hnumbers : (sizeLine (Number.general fontSize) (toString steps)).error? = none :=
    error?_printMarked_of_calm <| by
      simp only [calm_append, hindent, hunit, hsteps, hsize, calm_toString_int, Bool.and_self]
  rw [profileInfo, error?_all_cons, error?_all_cons, hnames, hnumbers]
  rfl

/-! ## Characters without an outline -/

theorem nodup_eraseDups {α : Type} [BEq α] [LawfulBEq α] : (l : List α) → l.eraseDups.Nodup
  | [] => by simp
  | a :: l => by
    rw [List.eraseDups_cons, List.nodup_cons, List.mem_eraseDups]
    exact ⟨by simp, nodup_eraseDups (l.filter fun b => !b == a)⟩
termination_by l => l.length
decreasing_by exact Nat.lt_succ_of_le (List.length_filter_le _ _)

theorem singleton_le_iff (c d : Char) : String.singleton c ≤ String.singleton d ↔ c ≤ d := by
  rw [← not_lt, ← not_lt, String.lt_iff_toList_lt, String.toList_singleton,
    String.toList_singleton, List.cons_lt_cons_iff]
  simp

/-- The characters that are told of are those that were skipped and are not blank, each once, in
the order of their code points. -/
theorem exists_visible (skipped : List Char) :
    ∃ cs : List Char, visible (skipped.map String.singleton) = cs.map String.singleton ∧
      cs.Pairwise (· < ·) ∧ ∀ c, c ∈ cs ↔ c ∈ skipped ∧ Text.isBlank c = false := by
  let told := (skipped.map String.singleton).filter fun c => c = "" ∨ !c.toList.all Text.isBlank
  have hperm : (visible (skipped.map String.singleton)).Perm told.eraseDups :=
    List.mergeSort_perm _ _
  have hmem (s : String) : s ∈ visible (skipped.map String.singleton) ↔ s ∈ told := by
    rw [hperm.mem_iff, List.mem_eraseDups]
  obtain ⟨cs, hcs⟩ : visible (skipped.map String.singleton) ∈
      Set.range (List.map String.singleton) := by
    rw [Set.range_list_map]
    intro c hc
    obtain ⟨d, -, hd⟩ := List.mem_map.mp (List.mem_filter.mp ((hmem c).mp hc)).1
    exact ⟨d, hd⟩
  refine ⟨cs, hcs.symm, ?_, fun c => ?_⟩
  · have hnodup : cs.Nodup := .of_map String.singleton <| by
      rw [hcs]
      exact hperm.nodup_iff.mpr (nodup_eraseDups told)
    have hsorted : (cs.map String.singleton).Pairwise (· ≤ ·) := by
      have hle := @List.pairwise_mergeSort String (fun a b => decide (a ≤ b))
        (fun a b c => by simpa using le_trans) (fun a b => by simpa using le_total a b)
        told.eraseDups
      rw [hcs]
      exact hle.imp of_decide_eq_true
    rw [List.pairwise_map] at hsorted
    exact (hsorted.imp fun h => (singleton_le_iff _ _).mp h).imp₂
      (fun _ _ hle hne => lt_of_le_of_ne hle hne) hnodup
  · have hsingleton : c ∈ cs ↔ String.singleton c ∈ cs.map String.singleton := by
      simp
    rw [hsingleton, hcs, hmem]
    simp [told]

/-- The line that tells of characters without an outline. -/
def outlineLine (cs : List Char) : String :=
  "  no outline for: " ++ String.intercalate " " (cs.map String.singleton)

/-- The line as it is shown: a backslash at its end makes the closing tag plain instead of being
shown itself, and the console drops what it drops everywhere. -/
def shownOutlineLine (cs : List Char) : String :=
  String.ofList <|
    (if cs.getLast? = some '\\' then (outlineLine cs).toList.dropLast ++ "[/yellow]".toList
      else (outlineLine cs).toList).filter (!isDropped ·)

/-- The part of the line that has a style. -/
def outlineWords (cs : List Char) : List Char := "no outline for: ".toList ++ spaced cs

theorem toList_outlineLine (cs : List Char) :
    (outlineLine cs).toList = "  ".toList ++ outlineWords cs := by
  unfold outlineLine outlineWords
  simp [spaced, String.toList_intercalate, Function.comp_def]

theorem apart_outlineWords (cs : List Char) : Apart (outlineWords cs) := by
  have happart : Apart ("no outline for".toList ++ ':' :: ' ' :: spaced cs) :=
    (((apart_spaced cs).cons (.inl (by decide))).cons (.inr (.inr rfl))).append_left (by simp)
  unfold outlineWords
  simpa using happart

theorem getLast?_outlineWords (cs : List Char) :
    (outlineWords cs).getLast? = some (cs.getLast?.getD ' ') := by
  unfold outlineWords
  rw [List.getLast?_append, getLast?_spaced]
  cases cs.getLast? <;> rfl

/-- The markup of the line has one styled stretch. -/
theorem toList_outlineMarkup (cs : List Char) :
    ("  [yellow]no outline for: " ++ String.intercalate " " (cs.map String.singleton) ++
        "[/yellow]").toList =
      styled "yellow".toList "  ".toList (outlineWords cs) [] := by
  unfold outlineWords
  simp [styled, spaced, String.toList_intercalate, Function.comp_def]

theorem toList_shownOutlineLine (cs : List Char) :
    (shownOutlineLine cs).toList =
      shownPiece "  ".toList ++ shownStretch "yellow".toList (outlineWords cs) := by
  have hindentKept : "  ".toList.filter (!isDropped ·) = "  ".toList := by decide
  have hclosingKept : "[/yellow]".toList.filter (!isDropped ·) = "[/yellow]".toList := by
    decide
  have hindent := (shownPiece_eq_filter (by decide) (by decide)).trans hindentKept
  have hclosing : shownPiece (plainClosing "yellow".toList) = "[/yellow]".toList :=
    (shownPiece_eq_filter (by decide) (by decide)).trans hclosingKept
  have hlast := getLast?_outlineWords cs
  have hiff : (outlineWords cs).getLast? = some '\\' ↔ cs.getLast? = some '\\' := by
    rw [hlast]
    cases cs.getLast? <;> simp
  have hne : outlineWords cs ≠ [] := by
    rintro hnil
    simp [hnil] at hlast
  rw [hindent, shownStretch, shownOutlineLine, String.toList_ofList, toList_outlineLine, hclosing]
  simp only [hiff]
  split
  · rw [List.dropLast_append_of_ne_nil hne, List.filter_append, List.filter_append, hindentKept,
      hclosingKept, List.append_assoc]
  · rw [List.filter_append, hindentKept]

/-- The line holds the characters and its own words. -/
theorem count_outlineLine {c : Char} (hc : c ∉ "  no outline for: ".toList) (cs : List Char) :
    (outlineLine cs).toList.count c = cs.count c := by
  have hzero {word : List Char} (hword : word ⊆ "  no outline for: ".toList) : word.count c = 0 :=
    List.count_eq_zero.mpr fun hmem => hc (hword hmem)
  have hspace : c ≠ ' ' := fun hspace => hc (hspace ▸ by decide)
  rw [toList_outlineLine, List.count_append, hzero (by decide), Nat.zero_add]
  unfold outlineWords
  rw [List.count_append, hzero (by decide), Nat.zero_add, count_spaced hspace]

/-- Nothing is shown but the characters, the words of the line and perhaps its closing tag. -/
theorem count_shownOutlineLine_le {c : Char} (hc : c ∉ "  no outline for: ".toList)
    (hclosing : "[/yellow]".toList.count c = 0) (cs : List Char) :
    (shownOutlineLine cs).toList.count c ≤ cs.count c := by
  rw [shownOutlineLine, String.toList_ofList, ← count_outlineLine hc cs]
  refine (List.filter_sublist.count_le c).trans ?_
  split
  · rw [List.count_append, hclosing]
    exact (List.dropLast_sublist _).count_le c
  · exact le_rfl

/-- The line about characters that stand apart is set as it is shown, whatever they are. -/
theorem exists_printMarked_outlines {cs : List Char} (h : cs.Nodup) :
    ∃ set, setText (shownOutlineLine cs).toList = .ok set ∧
      printMarked ("  [yellow]no outline for: " ++
        String.intercalate " " (cs.map String.singleton) ++ "[/yellow]") =
          ⟨String.ofList (set.shown ++ ['\n']), none⟩ := by
  have hstyle := isStyle_of_mem "yellow" (by simp [reportStyles])
  have hbefore : '[' ∉ "  ".toList ∧ '\\' ∉ "  ".toList := by decide
  obtain ⟨spans, hshown, hspans⟩ := exists_shownOf_styled hstyle hbefore (apart_outlineWords cs)
  rw [← toList_shownOutlineLine, ← toList_outlineMarkup] at hshown
  obtain ⟨set, hset⟩ := exists_setText_of_count <|
    (count_shownOutlineLine_le (by decide) (by decide) cs).trans
      (List.nodup_iff_count_le_one.mp h joiner)
  refine ⟨set, hset, ?_⟩
  rw [printMarked_eq hshown, printSet_eq hset fun s hs => hstyle.fault?_eq (hspans s hs)]

/-- There is a line where there are characters to tell of, and it is printed. -/
theorem exists_skippedLine (skipped : List Char) :
    ∃ cs : List Char, cs.Pairwise (· < ·) ∧
      (∀ c, c ∈ cs ↔ c ∈ skipped ∧ Text.isBlank c = false) ∧
      (cs = [] → skippedLine (skipped.map String.singleton) = []) ∧
      (cs ≠ [] → ∃ set, setText (shownOutlineLine cs).toList = .ok set ∧
        skippedLine (skipped.map String.singleton) =
          [⟨String.ofList (set.shown ++ ['\n']), none⟩]) := by
  obtain ⟨cs, hvisible, hsorted, hmem⟩ := exists_visible skipped
  refine ⟨cs, hsorted, hmem, ?_, fun hne => ?_⟩
  · rintro rfl
    rw [skippedLine, hvisible]
    rfl
  · obtain ⟨set, hset, hprinted⟩ :=
      exists_printMarked_outlines (hsorted.imp fun hlt => ne_of_lt hlt)
    refine ⟨set, hset, ?_⟩
    unfold skippedLine
    rw [hvisible]
    split
    · rename_i hnil
      exact absurd (List.map_eq_nil_iff.mp hnil) hne
    · rw [hprinted]

/-- A line about characters that stand apart is printed, whatever they are. -/
theorem error?_skippedLine (skipped : List Char) :
    ∀ p ∈ skippedLine (skipped.map String.singleton), p.error? = none := by
  obtain ⟨cs, -, -, hnone, hline⟩ := exists_skippedLine skipped
  intro p hp
  by_cases hnil : cs = []
  · rw [hnone hnil] at hp
    cases hp
  · obtain ⟨set, -, hline⟩ := hline hnil
    rw [hline, List.mem_singleton] at hp
    rw [hp]

/-- Of the summary only the line with the path can fail. -/
theorem error?_success {path : String} {seconds : Float} (h : seconds.isFinite = true)
    (lines : Int) (traced skipped : Nat) (skippedChars : List Char) :
    (success path seconds lines traced skipped (skippedChars.map String.singleton)).error? =
      (outputLine path (Number.grouped lines)).error? := by
  obtain ⟨time, htime, hcalm⟩ := exists_duration h
  have hrest : (Printout.all (skippedLine (skippedChars.map String.singleton))).error? = none := by
    have hnone := error?_skippedLine skippedChars
    generalize skippedLine (skippedChars.map String.singleton) = rest at hnone
    induction rest with
    | nil => rfl
    | cons p rest ih =>
      rw [error?_all_cons, hnone p List.mem_cons_self, Option.none_or]
      exact ih fun q hq => hnone q (List.mem_cons_of_mem p hq)
  have hglyphs : (glyphLine (toString (traced : Int)) (toString (skipped : Int))).error? = none :=
    error?_glyphLine (calm_toString_int traced) (calm_toString_int skipped)
  rw [success, htime]
  simp only [List.cons_append, List.nil_append, error?_all_cons, Except.mapError, Printout.using]
  rw [error?_timeLine hcalm, hglyphs, hrest, Option.none_or, Option.none_or, Option.or_none]

/-! ## Reports of errors -/

/-- The lines of the report of an error as a reader is meant to see them. -/
def errorLines (message details : String) : List String :=
  ("\n✗ Error: " ++ message) :: if details = "" then [] else ["  " ++ details]

/-- A printout of lines: each is shown, wrapped where it is too wide, and followed by a line
feed. -/
def Printout.Shows (p : Printout) (lines : List String) : Prop :=
  p.error? = none ∧ ∃ shown : List (List Char),
    List.Forall₂ (fun line s => ShownAs line.toList s) lines shown ∧
      p.text = String.ofList (shown.flatMap (· ++ ['\n']))

theorem Printout.shows_nil : (Printout.all []).Shows [] := ⟨rfl, [], .nil, rfl⟩

theorem Printout.Shows.cons {p : Printout} {parts : List Printout} {line : String}
    {lines : List String} (hp : p.Shows [line]) (hparts : (Printout.all parts).Shows lines) :
    (Printout.all (p :: parts)).Shows (line :: lines) := by
  obtain ⟨hp, shown, hfirst, htext⟩ := hp
  obtain ⟨hparts, more, hmore, hrest⟩ := hparts
  rw [Printout.Shows, all_cons hp]
  obtain ⟨s, _, hs, htail, rfl⟩ := List.forall₂_cons_left_iff.mp hfirst
  obtain rfl := List.forall₂_nil_left_iff.mp htail
  refine ⟨hparts, s :: more, .cons hs hmore, ?_⟩
  rw [htext, hrest, ← String.ofList_append]
  simp

/-- All characters of the lines are there, in their order, but for blanks. -/
theorem Printout.Shows.ink_eq {p : Printout} {lines : List String} (h : p.Shows lines) :
    ink p.text.toList = ink (lines.flatMap String.toList) := by
  obtain ⟨-, shown, hshown, htext⟩ := h
  rw [htext, String.toList_ofList]
  clear htext
  induction hshown with
  | nil => rfl
  | cons hline _ ih =>
    rw [List.flatMap_cons, List.flatMap_cons, ink_append, ink_append, ink_append, hline.ink_eq, ih,
      ink_cons_of_isBlank (by decide)]
    simp [ink]

/-- A text all lines of which can be set. -/
def AllSettable (cs : List Char) : Prop := ∀ line ∈ linesOf (placed cs), Settable line

/-- Where nothing joins or changes anything, all lines can be set. -/
theorem Plain.allSettable (h : Plain cs) : AllSettable cs := by
  intro line hline
  have hsubset := ((of_mem_linesOf hline).2.map Placed.char).subset
  rw [← chars, ← chars, chars_placed] at hsubset
  exact .inr (h.of_subset hsubset)

theorem shows_printSet {line : String} (h : AllSettable line.toList)
    (hspans : ∀ s ∈ spans, s.fault? = none) : (printSet line.toList spans).Shows [line] := by
  obtain ⟨set, hset, hshows⟩ := exists_setText h
  rw [printSet_eq hset hspans]
  exact ⟨rfl, [set.shown], .cons hshows .nil, by simp⟩

/-- A literal line is shown as it is. -/
theorem shows_of_literal {line : String} (h : Literal line.toList)
    (hset : AllSettable line.toList) : (printMarked line).Shows [line] := by
  have hshown := h.noTag.shownOf_eq
  rw [h.shownPiece_eq] at hshown
  rw [printMarked_eq hshown]
  exact shows_printSet hset (by simp)

/-- The line with a literal message is shown as it is. -/
theorem shows_message {message : String} (h : Literal message.toList)
    (hset : AllSettable ("\n✗ Error: " ++ message).toList) :
    (printMarked ("\n[bold red]✗ Error:[/bold red] " ++ message)).Shows
      ["\n✗ Error: " ++ message] := by
  have htext : ("\n[bold red]✗ Error:[/bold red] " ++ message).toList =
      styled "bold red".toList "\n".toList "✗ Error:".toList (' ' :: message.toList) := by
    simp [styled]
  have hstyle := isStyle_of_mem "bold red" (by simp [reportStyles])
  have hafter := h.cons (by decide : isMeaningless ' ' = true)
  have hshown := shownOf_styled hstyle (by decide : '[' ∉ "\n".toList ∧ '\\' ∉ "\n".toList)
    (noTag_of_not_mem (by decide : '[' ∉ "✗ Error:".toList) _) (by decide) hafter.noTag
  have hword : shownPiece "\n".toList ++ shownPiece "✗ Error:".toList = "\n✗ Error:".toList := by
    decide +kernel
  rw [hafter.shownPiece_eq, ← htext, hword] at hshown
  have hline : "\n✗ Error:".toList ++ ' ' :: message.toList =
      ("\n✗ Error: " ++ message).toList := by simp
  rw [printMarked_eq hshown, hline]
  exact shows_printSet hset (by simpa using hstyle.fault?_eq rfl)

/-- An error with literal texts is reported as it is. -/
theorem shows_error {message details : String} (hmessage : Literal message.toList)
    (hdetails : Literal details.toList)
    (hset : ∀ line ∈ errorLines message details, AllSettable line.toList) :
    (Console.error message details).Shows (errorLines message details) := by
  rw [Console.error, errorLines]
  refine (shows_message hmessage (hset _ List.mem_cons_self)).cons ?_
  split
  · exact Printout.shows_nil
  · rename_i hne
    have hspace : isMeaningless ' ' = true := by decide
    have hliteral : Literal ("  " ++ details).toList := by
      simpa using (hdetails.cons hspace).cons hspace
    exact (shows_of_literal hliteral (hset _ (by simp [errorLines, hne]))).cons Printout.shows_nil

end PenPlot.Console
