-- Texts that differ in blanks alone. The checks of a request, the layout and the statistics
-- see a text through its retained lines, so blanks that are put in where lines start or end
-- change nothing: not the program, not the error, and not what is noted on the way.
import PenPlot.Compiler
import PenPlot.Proofs.Compilation.Text
import PenPlot.Proofs.Text.Blanks

namespace PenPlot

variable {text other : String}

/-! ## What is seen of a text -/

/-- A request is checked by the retained lines of its text. -/
theorem Request.map_style_check
    (h : Text.retainedLines text.toList = Text.retainedLines other.toList)
    (style? : Option Settings.Style) :
    (Request.check (some text) style?).map Request.style =
      (Request.check (some other) style?).map Request.style := by
  simp only [Request.check, h]
  split
  · rfl
  · cases style? with
    | none => rfl
    | some style => cases hfont : style.namesFont <;> simp [hfont, Except.map]

namespace Compilation

/-- The layout and the count of lines are those of the retained lines. -/
theorem run_eq_of_lines (h : Text.retainedLines text.toList = Text.retainedLines other.toList)
    (style : Settings.Style) (m : Settings.Machine) (font : Font.Handle) (start stop : Float) :
    run text style m font start stop = run other style m font start stop := by
  unfold run Layout.layOut
  rw [h]

end Compilation

namespace Compiler

theorem compileWith_eq_of_lines
    (h : Text.retainedLines text.toList = Text.retainedLines other.toList) (c : Compiler)
    (style? : Option Settings.Style) (machine? : Option Settings.Machine) (font : Font.Handle)
    (trail : Font.Trail) :
    c.compileWith (some text) style? machine? font trail =
      c.compileWith (some other) style? machine? font trail := by
  cases style? with
  | none => rfl
  | some style =>
    unfold compileWith
    simp only [Compilation.run_eq_of_lines h]

/-! ## The law -/

/-- Blanks at the edges of lines do not show. The retained lines of two texts with a line feed
between them are those of both, none of them is empty, holds a line feed, or starts or ends with a
blank, and joined by line feeds they come back. So a text into which blanks are put where lines
start or end passes the checks of a request exactly as before, and is compiled to the same program
or error, with the same statistics and the same events. -/
theorem blanks_at_the_edges_do_not_show :
    (∀ a b : List Char, Text.retainedLines (a ++ '\n' :: b) =
      Text.retainedLines a ++ Text.retainedLines b) ∧
    (∀ text, ∀ line ∈ Text.retainedLines text, Text.IsRetained line) ∧
    (∀ text, Text.retainedLines (List.intercalate ['\n'] (Text.retainedLines text)) =
        Text.retainedLines text ∧
      (Text.retainedLines text ≠ [] →
        Text.splitAt '\n' (List.intercalate ['\n'] (Text.retainedLines text)) =
          Text.retainedLines text)) ∧
    ∀ text other : String, Text.Padded text.toList other.toList →
      (∀ style?, (Request.check (some other) style?).map Request.style =
        (Request.check (some text) style?).map Request.style) ∧
      ∀ (c : Compiler) style? machine? font trail,
        c.compileWith (some other) style? machine? font trail =
          c.compileWith (some text) style? machine? font trail := by
  refine ⟨Text.retainedLines_append, fun text line => Text.isRetained_of_mem, ?_, ?_⟩
  · intro text
    refine ⟨Text.retainedLines_join text, Text.splitAt_join fun line hline => ?_⟩
    exact (Text.isRetained_of_mem hline).oneLine
  · intro text other hpadded
    have hlines := hpadded.retainedLines_eq
    exact ⟨Request.map_style_check hlines, fun c => compileWith_eq_of_lines hlines c⟩

/-- A carriage return, an ideographic space, a tab and a next-line control make no difference. -/
theorem two_lines_are_padded :
    (fresh .standard false ⟨[0], 0⟩).compileWith (some "\u3000n n\r\n\t\u0085\nn ") (some .standard)
        none Compilation.archFont ⟨[], []⟩ =
      (fresh .standard false ⟨[0], 0⟩).compileWith (some "n n\nn") (some .standard) none
        Compilation.archFont ⟨[], []⟩ := by
  have hpadded : Text.Padded "n n\nn".toList "\u3000n n\r\n\t\u0085\nn ".toList := by
    have hfront : Text.Insertion "n n\nn".toList "\u3000n n\nn".toList :=
      .blanks [] ['\u3000'] "n n\nn".toList (by decide) (by decide)
    have hend : Text.Insertion "\u3000n n\nn".toList "\u3000n n\r\nn".toList :=
      .blanks "\u3000n n".toList ['\r'] "\nn".toList (by decide) (by decide)
    have hline : Text.Insertion "\u3000n n\r\nn".toList "\u3000n n\r\n\t\u0085\nn".toList :=
      .blanks "\u3000n n\r\n".toList "\t\u0085\n".toList "n".toList (by decide) (by decide)
    have hlast : Text.Insertion "\u3000n n\r\n\t\u0085\nn".toList
        "\u3000n n\r\n\t\u0085\nn ".toList :=
      .blanks "\u3000n n\r\n\t\u0085\nn".toList [' '] [] (by decide) (by decide)
    exact (((Relation.ReflTransGen.single hfront).tail hend).tail hline).tail hlast
  exact (blanks_at_the_edges_do_not_show.2.2.2 _ _ hpadded).2 _ _ none Compilation.archFont _

end Compiler

end PenPlot
