-- Reports: what the program tells on the console while it works. A report is
-- printed line by line, and an error in one of them stops it there.
import PenPlot.Console.Argument
import PenPlot.Console.Markup
import PenPlot.Console.Wrapping
import PenPlot.Number.Significant
import PenPlot.Text.Blank

namespace PenPlot.Console

/-! ## Printouts -/

/-- Why a report stops. -/
inductive ReportError where
  | argument (fault : ArgumentFault)
  | markup (error : MarkupError)
  | uncut (error : Uncut)
  deriving DecidableEq, Repr

/-- The error of a color component. -/
def ReportError.component (fault : ComponentFault) : ReportError := .markup (.badComponent fault)

/-- What is printed, and the error that ended it. -/
structure Printout where
  text : String
  error? : Option ReportError
  deriving DecidableEq, Repr

/-- One printout after another; nothing comes after an error. -/
def Printout.andThen (a b : Printout) : Printout :=
  match a.error? with
  | some _ => a
  | none => ⟨a.text ++ b.text, b.error?⟩

/-- Printouts one after the other. -/
def Printout.all (parts : List Printout) : Printout := parts.foldr Printout.andThen ⟨"", none⟩

/-- Prints nothing but an error. -/
def Printout.stopped (e : ReportError) : Printout := ⟨"", some e⟩

/-- Prints with what arguments give, if they give it. -/
def Printout.using {α : Type} (given : Except ArgumentFault α) (print : α → Printout) : Printout :=
  match given with
  | .ok a => print a
  | .error fault => .stopped (.argument fault)

/-- The fault that comes up once a text is set and the styles of the stretches that
are left in it are looked up. -/
def styleFault? (set : SetText) (spans : List Span) : Option ComponentFault :=
  spans.findSome? fun s => s.fault?.filter fun _ => set.keeps s.start s.stop

/-- Prints characters as they are set, and a line feed. -/
def printSet (cs : List Char) (spans : List Span) : Printout :=
  match setText cs with
  | .error e => .stopped (.uncut e)
  | .ok set =>
    match styleFault? set spans with
    | some fault => .stopped (.component fault)
    | none => ⟨String.ofList (set.shown ++ ['\n']), none⟩

/-- Prints a text as it is, and a line feed. -/
def printPlain (text : String) : Printout := printSet (text.toList.filter (!isDropped ·)) []

/-- Prints a marked-up text, and a line feed. -/
def printMarked (text : String) : Printout :=
  match shown text with
  | .ok (cs, spans) => printSet cs spans
  | .error e => .stopped (.markup e)

/-! ## The reports -/

/-- The name of the program and its version, and a rule. -/
def header (version : String) : Printout :=
  .all [printMarked ("\n[bold]Plottext[/bold] v" ++ version),
    printMarked (String.ofList (List.replicate 44 '─'))]

/-- A step of the work. -/
def step (message : String) : Printout := printMarked ("\n▸ " ++ message)

/-- The line that names a font and a profile. -/
def profileLine (profile font : String) : Printout :=
  printPlain ("  " ++ font ++ " (" ++ profile ++ ")")

/-- The line that tells of the size and the steps. -/
def sizeLine (size steps : String) : Printout :=
  printMarked ("  " ++ size ++ " mm em · " ++ steps ++ " curve steps")

/-- The settings of a compilation. -/
def profileInfo (profile font : String) (fontSize : Float) (curveSteps : Int) : Printout :=
  .all [profileLine profile font, sizeLine (Number.general fontSize) (toString curveSteps)]

/-- The characters that are worth telling of: those that are not blank, each
once, in the order of their code points. -/
def visible (chars : List String) : List String :=
  let shown := chars.filter fun c => c = "" ∨ !c.toList.all Text.isBlank
  (shown.eraseDups).mergeSort fun a b => a ≤ b

/-- The line about characters without an outline, if there is one. -/
def skippedLine (chars : List String) : List Printout :=
  match visible chars with
  | [] => []
  | chars =>
    [printMarked ("  [yellow]no outline for: " ++ String.intercalate " " chars ++ "[/yellow]")]

/-- The line that tells how long a compilation took. -/
def timeLine (time : String) : Printout :=
  printMarked ("\n[bold green]✓ Complete[/bold green] in " ++ time)

/-- The line that names the output and its length. -/
def outputLine (path lines : String) : Printout :=
  printPlain ("  " ++ path ++ " (" ++ lines ++ " lines)")

/-- The line that counts the glyphs. -/
def glyphLine (traced skipped : String) : Printout :=
  printMarked ("  " ++ traced ++ " glyphs traced · " ++ skipped ++ " skipped")

/-- The summary of a compilation that succeeded. -/
def success (path : String) (seconds : Float) (lines traced skipped : Int)
    (skippedChars : List String) : Printout :=
  .all <|
    [.using ((duration seconds).mapError .notFinite) timeLine,
      outputLine path (Number.grouped lines),
      glyphLine (toString traced) (toString skipped)] ++
    skippedLine skippedChars

/-- The report of an error, with details if there are any. -/
def error (message details : String) : Printout :=
  .all <|
    printMarked ("\n[bold red]✗ Error:[/bold red] " ++ message) ::
      (if details = "" then [] else [printMarked ("  " ++ details)])

/-! ## Reports by name -/

/-- The reports. -/
inductive ReportName where
  | header
  | step
  | profileInfo
  | success
  | error
  deriving DecidableEq, Repr

/-- The arguments that a report needs, and those that it takes besides. -/
def ReportName.arguments : ReportName → List String × List String
  | .header => (["version"], [])
  | .step => (["message"], [])
  | .profileInfo => (["profile", "font", "font_size", "curve_steps"], [])
  | .success =>
    (["output_path", "total_time_s", "program_lines", "traced", "skipped"], ["skipped_chars"])
  | .error => (["message"], ["details"])

/-- A report with arguments that fit it by their names. Those that stand within a
sentence may be of any kind. -/
def ReportName.printed (args : Arguments) : ReportName → Printout
  | .header => Console.header (args.value "version").inSentence
  | .step => Console.step (args.value "message").inSentence
  | .profileInfo =>
    .all [
      .using (textArgument (args.value "font"))
        (profileLine (args.value "profile").inSentence),
      .using (generalArgument (args.value "font_size")) fun size =>
        sizeLine size (args.value "curve_steps").inSentence]
  | .success =>
    .all [
      .using (durationArgument (args.value "total_time_s")) timeLine,
      .using (do
          let path ← textArgument (args.value "output_path")
          pure (path, ← groupedArgument (args.value "program_lines")))
        fun (path, lines) => outputLine path lines,
      glyphLine (args.value "traced").inSentence (args.value "skipped").inSentence,
      .using (charsArgument (args.value "skipped_chars")) fun chars => .all (skippedLine chars)]
  | .error =>
    let details := args.value "details"
    Console.error (args.value "message").inSentence
      (if details.countsAsTrue then details.inSentence else "")

/-- The report with a name and arguments. -/
def report (name : ReportName) (args : Arguments) : Printout :=
  .using (args.check name.arguments.1 name.arguments.2) fun _ => name.printed args

end PenPlot.Console
