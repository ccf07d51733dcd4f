-- Which characters the summary tells of. They are listed in the order of their code points, but a
-- backslash that comes last gives way to the closing tag of the line, and what the console drops is
-- missing.
import PenPlot.Proofs.Console.Report

namespace PenPlot.Console

variable {cs : List Char}

/-! ## Setting the line -/

/-- A text without line feeds is one line. -/
theorem linesOf_eq_self {line : List Placed} (h : '\n' ∉ chars line) : linesOf line = [line] := by
  induction line with
  | nil => rfl
  | cons p rest ih =>
    rw [chars_cons, List.mem_cons, not_or] at h
    rw [linesOf, ih h.2]
    exact if_neg (Ne.symm h.1)

/-- A line without tabs that fits or is plain can be set. -/
theorem allSettable_of_fits (hfeed : '\n' ∉ cs) (htab : '\t' ∉ cs)
    (h : textCells cs ≤ lineWidth ∨ Plain cs) : AllSettable cs := by
  rw [AllSettable, linesOf_eq_self (by rwa [chars_placed])]
  intro line hline
  obtain rfl := List.mem_singleton.mp hline
  have htabbed := (tabbed_fillTabs (placed cs)).eq_self (by rwa [chars_placed])
  rwa [Settable, htabbed, chars_placed]

/-- The line about characters that are not blank can be set where it fits or they are plain. -/
theorem allSettable_shownOutlineLine (hcs : ∀ c ∈ cs, Text.isBlank c = false)
    (h : textCells (shownOutlineLine cs).toList ≤ lineWidth ∨ Plain cs) :
    AllSettable (shownOutlineLine cs).toList := by
  have hmissing {c : Char} (hwords : c ∉ "  no outline for: ".toList)
      (hclosing : "[/yellow]".toList.count c = 0) (hc : c ∉ cs) :
      c ∉ (shownOutlineLine cs).toList := by
    have hle := count_shownOutlineLine_le hwords hclosing cs
    rw [List.count_eq_zero.mpr hc, Nat.le_zero] at hle
    exact List.count_eq_zero.mp hle
  have hblank {c : Char} (hc : Text.isBlank c = true) : c ∉ cs := fun hmem => by
    rw [hcs c hmem] at hc
    cases hc
  refine allSettable_of_fits (hmissing (by decide) (by decide) (hblank (by decide)))
    (hmissing (by decide) (by decide) (hblank (by decide))) (h.imp_right fun hplain => ?_)
  exact ⟨hmissing (by decide) (by decide) hplain.noJoiner,
    hmissing (by decide) (by decide) hplain.noSelector⟩

/-! ## What is missing -/

theorem mem_spaced {c : Char} (h : c ∈ spaced cs) : c = ' ' ∨ c ∈ cs := by
  by_cases hspace : c = ' '
  · exact .inl hspace
  · refine .inr ?_
    rwa [← List.count_pos_iff, count_spaced hspace, List.count_pos_iff] at h

/-- Whether the characters are listed as they are: the last one is no backslash, and none of them
rings or moves back. -/
def Listable (cs : List Char) : Prop := cs.getLast? ≠ some '\\' ∧ '\x07' ∉ cs ∧ '\x08' ∉ cs

/-- Of the characters that are dropped two are not blank. -/
theorem eq_of_isDropped {c : Char} (h : isDropped c = true) (hblank : Text.isBlank c = false) :
    c = '\x07' ∨ c = '\x08' := by
  rw [← Char.ofNat_toNat c] at hblank ⊢
  rw [isDropped, List.contains_eq_mem, decide_eq_true_eq] at h
  simp only [List.mem_cons, List.not_mem_nil, or_false] at h
  rcases h with h | h | h | h | h <;> rw [h] at hblank ⊢
  · exact .inl rfl
  · exact .inr rfl
  all_goals cases hblank

theorem shownOutlineLine_eq_self (hcs : ∀ c ∈ cs, Text.isBlank c = false) (h : Listable cs) :
    shownOutlineLine cs = outlineLine cs := by
  obtain ⟨hlast, hbell, hback⟩ := h
  have hkept : ∀ c ∈ (outlineLine cs).toList, (!isDropped c) = true := by
    have hindent : "  ".toList.all (!isDropped ·) = true := by decide
    have hwords : "no outline for: ".toList.all (!isDropped ·) = true := by decide
    intro c hc
    rw [toList_outlineLine] at hc
    unfold outlineWords at hc
    rcases List.mem_append.mp hc with hc | hc
    · exact List.all_eq_true.mp hindent c hc
    · rcases List.mem_append.mp hc with hc | hc
      · exact List.all_eq_true.mp hwords c hc
      · rcases mem_spaced hc with rfl | hc
        · rfl
        · rw [Bool.not_eq_true', ← Bool.not_eq_true]
          intro hdropped
          rcases eq_of_isDropped hdropped (hcs c hc) with rfl | rfl
          · exact hbell hc
          · exact hback hc
  rw [shownOutlineLine, if_neg hlast, List.filter_eq_self.mpr hkept, String.ofList_toList]

/-- A line that shows the same characters is the line itself. -/
theorem listable_of_ink_eq
    (h : ink (shownOutlineLine cs).toList = ink (outlineLine cs).toList) : Listable cs := by
  have hdropped {c : Char} (hc : isDropped c = true) (hblank : Text.isBlank c = false)
      (hwords : c ∉ "  no outline for: ".toList) : c ∉ cs := by
    intro hmem
    rw [← List.count_pos_iff, ← count_outlineLine hwords, List.count_pos_iff] at hmem
    have hline : c ∈ ink (outlineLine cs).toList := List.mem_filter.mpr ⟨hmem, by rw [hblank]; rfl⟩
    rw [← h, shownOutlineLine, String.toList_ofList] at hline
    have hkept := (List.mem_filter.mp (List.mem_filter.mp hline).1).2
    rw [hc] at hkept
    cases hkept
  refine ⟨fun hlast => ?_, hdropped (by decide) (by decide) (by decide),
    hdropped (by decide) (by decide) (by decide)⟩
  -- The line ends in the backslash, and what is shown in a bracket.
  have hbracket : (ink (shownOutlineLine cs).toList).getLast? = some ']' := by
    have hclosing : ink ("[/yellow]".toList.filter (!isDropped ·)) = "[/yellow]".toList := by
      decide
    rw [shownOutlineLine, String.toList_ofList, if_pos hlast, List.filter_append, ink_append,
      hclosing, List.getLast?_append]
    rfl
  have hwords : (outlineWords cs).getLast? = some '\\' := by
    rw [getLast?_outlineWords, hlast, Option.getD_some]
  obtain ⟨front, hfront⟩ := List.getLast?_eq_some_iff.mp hwords
  have hslash : ink ['\\'] = ['\\'] := by decide
  rw [h, toList_outlineLine, hfront, ink_append, ink_append, hslash, ← List.append_assoc,
    List.getLast?_concat] at hbracket
  cases hbracket

/-! ## The summary -/

theorem all_append (parts more : List Printout) :
    Printout.all (parts ++ more) = (Printout.all parts).andThen (Printout.all more) := by
  induction parts with
  | nil => simp [Printout.all, Printout.andThen]
  | cons p parts ih =>
    cases hp : p.error? with
    | none =>
      rw [List.cons_append, all_cons hp, all_cons hp, ih]
      simp only [Printout.andThen]
      split <;> simp_all [String.append_assoc]
    | some e =>
      have hstop (q : Printout) : p.andThen q = p := by rw [Printout.andThen, hp]
      simp only [Printout.all, List.cons_append, List.foldr_cons] at ih ⊢
      rw [hstop, hstop, hstop]

/-- The summary tells of characters after everything else. -/
theorem success_eq (path : String) (seconds : Float) (lines traced skipped : Int)
    (chars : List String) :
    success path seconds lines traced skipped chars =
      (success path seconds lines traced skipped []).andThen (.all (skippedLine chars)) := by
  have hnone : skippedLine [] = [] := by simp [skippedLine, visible]
  unfold success
  rw [hnone, List.append_nil, all_append]

/-- What is told of the characters that drew nothing, whatever they are. They are listed where they
are not blank, each once and in the order of their code points, and there is no line where there
are none. The line as it is shown is set as any text is, and shown up to wrapping where it fits on
one line or nothing in it joins or changes anything; it lists the characters as they are if and
only if no backslash comes last and none of them rings or moves back. -/
theorem the_characters_without_an_outline_are_listed (path : String) (seconds : Float)
    (lines traced skipped : Int) (skippedChars : List Char) :
    ∃ (cs : List Char) (told : Printout),
      cs.Pairwise (· < ·) ∧ (∀ c, c ∈ cs ↔ c ∈ skippedChars ∧ Text.isBlank c = false) ∧
      success path seconds lines traced skipped (skippedChars.map String.singleton) =
        (success path seconds lines traced skipped []).andThen told ∧
      told.error? = none ∧ (told.text = "" ↔ cs = []) ∧
      (shownOutlineLine cs = outlineLine cs ↔ Listable cs) ∧
      (cs ≠ [] →
        (∃ set, setText (shownOutlineLine cs).toList = .ok set ∧
          told.text = String.ofList (set.shown ++ ['\n'])) ∧
        (textCells (shownOutlineLine cs).toList ≤ lineWidth ∨ Plain cs →
          told.Shows [shownOutlineLine cs] ∧ (told.Shows [outlineLine cs] ↔ Listable cs))) := by
  obtain ⟨cs, hsorted, hmem, hnone, hline⟩ := exists_skippedLine skippedChars
  have hcs : ∀ c ∈ cs, Text.isBlank c = false := fun c hc => ((hmem c).mp hc).2
  have hself : shownOutlineLine cs = outlineLine cs ↔ Listable cs :=
    ⟨fun heq => listable_of_ink_eq (by rw [heq]), shownOutlineLine_eq_self hcs⟩
  refine ⟨cs, .all (skippedLine (skippedChars.map String.singleton)), hsorted, hmem,
    success_eq .., ?_⟩
  by_cases hnil : cs = []
  · rw [hnone hnil]
    exact ⟨rfl, iff_of_true rfl hnil, hself, fun hne => absurd hnil hne⟩
  · obtain ⟨set, hset, hlines⟩ := hline hnil
    have htold : Printout.all [⟨String.ofList (set.shown ++ ['\n']), none⟩] =
        ⟨String.ofList (set.shown ++ ['\n']), none⟩ := by
      rw [all_cons rfl]
      simp [Printout.all]
    rw [hlines, htold]
    refine ⟨rfl, iff_of_false (by simp) hnil, hself, fun _ => ⟨⟨set, hset, rfl⟩, fun hfits => ?_⟩⟩
    have hshows : Printout.Shows ⟨String.ofList (set.shown ++ ['\n']), none⟩
        [shownOutlineLine cs] := by
      rw [← printSet_eq hset (by simp : ∀ s ∈ [], Span.fault? s = none)]
      exact shows_printSet (allSettable_shownOutlineLine hcs hfits) (by simp)
    refine ⟨hshows, fun hclaimed => listable_of_ink_eq ?_, fun h => hself.mpr h ▸ hshows⟩
    have hink := hshows.ink_eq.symm.trans hclaimed.ink_eq
    simpa using hink

/-- A backslash that drew nothing is not listed, but the closing tag is shown in its place. -/
theorem a_backslash_is_not_listed :
    (success "a.gcode" 0.25 1 0 1 ["\\"]).text =
        "\n✓ Complete in 250ms\n  a.gcode (1 lines)\n  0 glyphs traced · 1 skipped\n" ++
          "  no outline for: [/yellow]\n" ∧
      ¬ (success "a.gcode" 0.25 1 0 1 ["\\"]).Shows
        ["\n✓ Complete in 250ms", "  a.gcode (1 lines)", "  0 glyphs traced · 1 skipped",
          "  no outline for: \\"] := by
  have htime : timeLine "250ms" =
      ⟨String.ofList ("\n✓ Complete in 250ms".toList ++ ['\n']), none⟩ := by
    have hshown : shownOf ("\n[bold green]✓ Complete[/bold green] in " ++ "250ms").toList =
        .ok ("\n✓ Complete in 250ms".toList, [⟨1, 11, "bold green".toList⟩]) := by decide +kernel
    exact printMarked_of_short hshown (by decide) (by decide) (error?_timeLine (by decide))
  have houtput : outputLine "a.gcode" (Number.grouped 1) =
      ⟨String.ofList ("  a.gcode (1 lines)".toList ++ ['\n']), none⟩ := by
    have hprinted : (outputLine "a.gcode" (Number.grouped 1)).error? = none :=
      error?_printPlain_of_calm (by decide +kernel)
    have hshown : ("  " ++ "a.gcode" ++ " (" ++ Number.grouped 1 ++ " lines)").toList.filter
        (!isDropped ·) = "  a.gcode (1 lines)".toList := by decide +kernel
    unfold outputLine printPlain at hprinted ⊢
    rw [hshown] at hprinted ⊢
    exact printSet_of_short (by decide) (by decide) hprinted
  have hglyphs : glyphLine (toString (0 : Int)) (toString (1 : Int)) =
      ⟨String.ofList ("  0 glyphs traced · 1 skipped".toList ++ ['\n']), none⟩ := by
    have hshown : shownOf ("  " ++ toString (0 : Int) ++ " glyphs traced · " ++
        toString (1 : Int) ++ " skipped").toList =
          .ok ("  0 glyphs traced · 1 skipped".toList, []) := by decide +kernel
    exact printMarked_of_short hshown (by decide) (by decide)
      (error?_glyphLine (calm_toString_int 0) (calm_toString_int 1))
  have hskipped : skippedLine ["\\"] =
      [⟨String.ofList ("  no outline for: [/yellow]".toList ++ ['\n']), none⟩] := by
    have hvisible : visible ["\\"] = ['\\'].map String.singleton := by decide +kernel
    have hline : (shownOutlineLine ['\\']).toList = "  no outline for: [/yellow]".toList := by
      decide +kernel
    obtain ⟨set, hset, hprinted⟩ := @exists_printMarked_outlines ['\\'] (by simp)
    obtain ⟨set', hset', hshown⟩ := @exists_setText_of_short (shownOutlineLine ['\\']).toList
      (by rw [hline]; decide) (by rw [hline]; decide)
    cases hset.symm.trans hset'
    rw [skippedLine, hvisible, ← hline, ← hshown, ← hprinted]
    rfl
  have hduration : duration 0.25 = .ok "250ms" := by decide +kernel
  have htext : (success "a.gcode" 0.25 1 0 1 ["\\"]).text =
      "\n✓ Complete in 250ms\n  a.gcode (1 lines)\n  0 glyphs traced · 1 skipped\n" ++
        "  no outline for: [/yellow]\n" := by
    rw [success, hduration, hskipped, houtput, hglyphs, Except.mapError, Printout.using, htime,
      List.cons_append, List.cons_append, List.cons_append, List.nil_append, all_cons rfl,
      all_cons rfl, all_cons rfl, all_cons rfl, Printout.all, List.foldr_nil, ← String.toList_inj]
    simp only [String.toList_append, String.toList_ofList]
    decide +kernel
  refine ⟨htext, fun hshows => ?_⟩
  have hink := hshows.ink_eq
  rw [htext] at hink
  exact absurd hink (by decide +kernel)

end PenPlot.Console
