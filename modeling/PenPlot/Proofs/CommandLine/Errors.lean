-- How an error of a compilation reaches the console. Whatever is raised in the work of a run ends
-- the run with one report, and a reader finds the texts of the error in it where they are literal.
import PenPlot.Proofs.CommandLine.Work

namespace PenPlot.CommandLine

variable {o : Options} {stdin : String} {clock : Clock} {tree : Files.Tree Content} {d d' : Desk}
  {e : CompileError}

/-! ## The texts of an error -/

/-- What is said about an error. Of a font that was not loaded it is why. -/
def headline : CompileError → String
  | .font e => "Could not load font: " ++ e.problem.reason
  | e => e.message?.getD ""

/-- What is said besides: where the font was looked for, or the stage of the error. -/
def details : CompileError → String
  | .font e => e.locator
  | e => "stage: " ++ e.stage?.getD ""

/-! ## Errors in the work of a run -/

/-- An error of a compilation comes up in the work of a run, and leaves a desk. -/
def Raises (o : Options) (stdin : String) (clock : Clock) (tree : Files.Tree Content)
    (e : CompileError) (d : Desk) : Prop :=
  ∃ profile m, Ends (prepare o) { tree := tree } (.ok profile) m ∧
    Ends (work o stdin clock profile) m (.error (.escaped (.compilation e))) d

/-- An error that has a stage is reported with its texts. -/
theorem rescue_eq_fail (h : e.stage?.isSome = true) :
    rescue (.escaped (.compilation e)) = fail (headline e) (details e) := by
  cases e with
  | request fault => rfl
  | font error => rfl
  | geometry char fault => rfl
  | noLocator | noStyle | noText | unusableFont fault => cases h

/-- What comes up in the work of a run is reported after what is on the console already, and the
report ends the run. -/
theorem ended_plot_of_raises (hraises : Raises o stdin clock tree e d)
    (hstage : e.stage?.isSome = true) :
    Ends (plot o stdin clock) { tree := tree }
      (.error (match (Console.error (headline e) (details e)).error? with
        | some fault => .escaped (.report fault)
        | none => .reported))
      { d with console :=
          d.console ++ [.text (Console.error (headline e) (details e)).text] } := by
  obtain ⟨profile, m, hprepare, hwork⟩ := hraises
  rw [Ends, ended_plot hprepare, hwork]
  simp only
  rw [rescue_eq_fail hstage]
  exact ends_fail_iff.mpr ⟨rfl, rfl⟩

/-- A run in whose work an error comes up ends with the report of it. -/
theorem run_of_raises {args : List String} (hdemand : demand args = .ok (.plot o))
    (hraises : Raises o stdin clock tree e d) (hstage : e.stage?.isSome = true) :
    run args stdin clock tree =
      (.failure ((Console.error (headline e) (details e)).error?.map .report),
        { d with console :=
            d.console ++ [.text (Console.error (headline e) (details e)).text] }) := by
  rw [run_eq_of_ends hdemand (ended_plot_of_raises hraises hstage), Prod.mk.injEq]
  refine ⟨?_, rfl⟩
  cases (Console.error (headline e) (details e)).error? <;> rfl

/-- Every error of a compilation that has a stage ends the run with exit code 1 and with one report
of its texts, after what is on the console already. Where its texts are literal and their lines can
be set, the report comes to its end, and shows the headline and the details as they are but for
wrapping. -/
theorem errors_are_reported_as_they_are_where_they_are_literal {args : List String}
    {ending : Ending} {desk : Desk} (hdemand : demand args = .ok (.plot o))
    (hraises : Raises o stdin clock tree e d) (hstage : e.stage?.isSome = true)
    (hrun : run args stdin clock tree = (ending, desk)) :
    let report := Console.error (headline e) (details e)
    ending.exitCode = 1 ∧ desk = { d with console := d.console ++ [.text report.text] } ∧
      (Console.Literal (headline e).toList → Console.Literal (details e).toList →
        (∀ line ∈ Console.errorLines (headline e) (details e), Console.AllSettable line.toList) →
        ending = .failure none ∧ report.Shows (Console.errorLines (headline e) (details e))) := by
  intro report
  rw [run_of_raises hdemand hraises hstage, Prod.mk.injEq] at hrun
  obtain ⟨rfl, rfl⟩ := hrun
  refine ⟨rfl, rfl, fun hheadline hdetails hlines => ?_⟩
  have hshows := Console.shows_error hheadline hdetails hlines
  exact ⟨by rw [hshows.1]; rfl, hshows⟩

/-! ## Fonts that are missing -/

/-- The error about a font that is missing. -/
def missingFont (name : String) : CompileError := .font ⟨name, .fault .missing⟩

/-- The options for an A with a font at a path. -/
def optionsWith (font : String) : Options :=
  { text? := some "A", fontPath? := some (.ofString font) }

theorem headline_missingFont (name : String) :
    headline (missingFont name) = "Could not load font: file not found" := by
  have h : headline (missingFont name) = "Could not load font: " ++ "file not found" := rfl
  rw [h]
  simp

theorem errorLines_missingFont {name : String} (h : name ≠ "") :
    Console.errorLines (headline (missingFont name)) (details (missingFont name)) =
      ["\n✗ Error: Could not load font: file not found", "  " ++ name] := by
  have hdetails : details (missingFont name) = name := rfl
  rw [Console.errorLines, headline_missingFont, hdetails, if_neg h]
  simp

/-- What is said about a font that is missing is literal. -/
theorem literal_missingFont (name : String) :
    Console.Literal (headline (missingFont name)).toList := by
  have hend := @Console.Apart.append_left " file not found".toList [] Console.apart_nil (by simp)
  rw [List.append_nil] at hend
  have happart : Console.Apart ("Could not load font".toList ++ ':' :: " file not found".toList) :=
    (hend.cons (.inr (.inr rfl))).append_left (by simp)
  have htext : "Could not load font: file not found".toList =
      "Could not load font".toList ++ ':' :: " file not found".toList := by simp
  rw [headline_missingFont]
  rw [← htext] at happart
  exact happart.literal (by simp [Console.isDropped])

theorem a_missing_font_is_reported :
    let r := run ["A", "--font-path", "x.ttf"] "" ⟨[], 0⟩ ⟨[]⟩
    r.1.exitCode = 1 ∧ ∃ report : Console.Printout, r.2.console = [.text report.text] ∧
      report.Shows ["\n✗ Error: Could not load font: file not found", "  x.ttf"] := by
  intro r
  obtain ⟨d, hconsole, hraises⟩ : ∃ d, d.console = [] ∧
      Raises (optionsWith "x.ttf") "" ⟨[], 0⟩ ⟨[]⟩ (missingFont "x.ttf") d :=
    ⟨_, rfl, .api, _, rfl, rfl⟩
  have hdemand : demand ["A", "--font-path", "x.ttf"] = .ok (.plot (optionsWith "x.ttf")) := by
    rw [demand_set rfl]
    rfl
  have hrun : r = (r.1, r.2) := Prod.mk.eta.symm
  obtain ⟨hexit, hdesk, hreport⟩ :=
    errors_are_reported_as_they_are_where_they_are_literal hdemand hraises rfl hrun
  have hname : Console.Literal (details (missingFont "x.ttf")).toList :=
    Console.literal_of_calm (by decide +kernel)
  rw [errorLines_missingFont (by decide)] at hreport
  refine ⟨hexit, _, ?_, (hreport (literal_missingFont _) hname fun line hline => ?_).2⟩
  · rw [hdesk, hconsole]
    rfl
  · have hplain : Console.Plain line.toList := by
      simp only [List.mem_cons, List.not_mem_nil, or_false] at hline
      rcases hline with rfl | rfl
      · exact ⟨by decide +kernel, by decide +kernel⟩
      · exact ⟨by decide +kernel, by decide +kernel⟩
    exact hplain.allSettable

/-- A name with a tag in it is shown without the tag. -/
theorem shows_tag : (Console.printMarked ("  " ++ "[bold]x.ttf")).Shows ["  x.ttf"] := by
  have hstyle := Console.isStyle_of_mem "bold" (by simp [Console.reportStyles])
  have htext : ("  " ++ "[bold]x.ttf").toList =
      "  ".toList ++ '[' :: ("bold".toList ++ ']' :: "x.ttf".toList) := by simp
  have hspaces : '[' ∉ "  ".toList ∧ '\\' ∉ "  ".toList := by decide
  have hname : Console.NoTag "x.ttf".toList [] := Console.noTag_of_not_mem (by decide) []
  have hshown := Console.shownOf_unclosed hstyle hspaces hname
  have hline : Console.shownPiece "  ".toList ++ Console.shownPiece "x.ttf".toList =
      "  x.ttf".toList := by decide +kernel
  rw [← htext, hline] at hshown
  rw [Console.printMarked_eq hshown]
  exact Console.shows_printSet (Console.Plain.allSettable ⟨by decide, by decide⟩)
    (by simpa using hstyle.fault?_eq rfl)

/-- A name may be reported with a part of it missing. -/
theorem a_tag_in_a_name_is_not_shown :
    let r := run ["A", "--font-path", "[bold]x.ttf"] "" ⟨[], 0⟩ ⟨[]⟩
    (∃ d, Raises (optionsWith "[bold]x.ttf") "" ⟨[], 0⟩ ⟨[]⟩ (missingFont "[bold]x.ttf") d) ∧
      r.1.exitCode = 1 ∧ ∃ report : Console.Printout, r.2.console = [.text report.text] ∧
        report.Shows ["\n✗ Error: Could not load font: file not found", "  x.ttf"] ∧
        ¬ report.Shows (Console.errorLines (headline (missingFont "[bold]x.ttf"))
          (details (missingFont "[bold]x.ttf"))) := by
  intro r
  obtain ⟨d, hconsole, hraises⟩ : ∃ d, d.console = [] ∧
      Raises (optionsWith "[bold]x.ttf") "" ⟨[], 0⟩ ⟨[]⟩ (missingFont "[bold]x.ttf") d :=
    ⟨_, rfl, .api, _, rfl, rfl⟩
  have hdemand : demand ["A", "--font-path", "[bold]x.ttf"] =
      .ok (.plot (optionsWith "[bold]x.ttf")) := by
    rw [demand_set rfl]
    rfl
  have hrun : r = _ := run_of_raises hdemand hraises rfl
  have hshows : (Console.error (headline (missingFont "[bold]x.ttf"))
      (details (missingFont "[bold]x.ttf"))).Shows
        ["\n✗ Error: Could not load font: file not found", "  x.ttf"] := by
    have hmessage := Console.shows_message (literal_missingFont "[bold]x.ttf")
      (Console.Plain.allSettable ⟨by decide +kernel, by decide +kernel⟩)
    rw [headline_missingFont] at hmessage
    exact hmessage.cons (shows_tag.cons Console.Printout.shows_nil)
  rw [hrun]
  refine ⟨⟨d, hraises⟩, rfl, _, ?_, hshows, fun hwhole => ?_⟩
  · rw [hconsole]
    rfl
  · have hink := hshows.ink_eq.symm.trans hwhole.ink_eq
    rw [errorLines_missingFont (by decide)] at hink
    exact absurd hink (by decide +kernel)

end PenPlot.CommandLine
