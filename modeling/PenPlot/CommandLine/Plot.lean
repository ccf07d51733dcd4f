-- The run of the command: it finds the profile, sets up the log, takes the
-- text from the arguments, a template or the standard input, compiles it, and
-- writes the program. Everything that is printed, noted or written is put on a
-- desk, which the caller clears away.
import PenPlot.CommandLine.Options
import PenPlot.Compiler
import PenPlot.Console.Report
import PenPlot.Font.Description
import PenPlot.Journal.Handlers
import PenPlot.Settings.Change
import PenPlot.Template.Entry
import PenPlot.Text.Lower

namespace PenPlot.CommandLine

/-- The version of the program. -/
def version : String := "0.1.0"

/-! ## The desk -/

/-- What a file holds: a font, a text, the events noted in it, or something
that is of no interest to the run. -/
inductive Content where
  | font (file : Font.File)
  | text (text : String)
  | journal (events : List Event)
  | anything

/-- A file read as a font. -/
def Content.asFont : Content → Font.File
  | .font file => file
  | .text words => .ofText words
  | .journal _ | .anything => .ofText ""

/-- What appears on the console: a text, or an event. -/
inductive Shown where
  | text (text : String)
  | event (event : Event)

/-- What the run leaves behind: the program on the standard output, the
console, the handlers, and the files. -/
structure Desk where
  output : String := ""
  console : List Shown := []
  handlers : Handlers := {}
  tree : Files.Tree Content

/-- Faults that the run does not report but ends with. -/
inductive Escape where
  | report (error : Console.ReportError)
  | setup (error : SetupError)
  | settings (problems : List Settings.Problem)
  | compilation (error : CompileError)

/-- Why a run stops. -/
inductive Stop where
  | usage (error : UsageError)
  | reported
  | escaped (escape : Escape)

/-- A part of the run: it works on the desk, and may stop. -/
abbrev Plotting := ExceptT Stop (StateM Desk)

/-- Puts a printout on the console. -/
def print (p : Console.Printout) : Plotting Unit := do
  modify fun d => { d with console := d.console ++ [.text p.text] }
  match p.error? with
  | some e => throw (.escaped (.report e))
  | none => pure ()

/-- Reports an error and stops. -/
def fail {α : Type} (message details : String) : Plotting α := do
  print (Console.error message details)
  throw .reported

/-- The content of a log file with one more event. -/
def Content.append (e : Event) : Option Content → Content
  | some (.journal events) => .journal (events ++ [e])
  | _ => .journal [e]

/-- Notes an event wherever its level is high enough. -/
def note (e : Event) : Plotting Unit :=
  modify fun d =>
    let reaches (level : Level) : Bool := level.weight ≤ e.level.weight
    let console :=
      if d.handlers.console?.any reaches then d.console ++ [.event e] else d.console
    let tree :=
      match d.handlers.file? with
      | some (path, level) =>
        if reaches level then (d.tree.modify path (Content.append e)).toOption.getD d.tree else d.tree
      | none => d.tree
    { d with console := console, tree := tree }

/-! ## The steps of a run -/

/-- The profile that the options name. -/
def findProfile (o : Options) : Plotting Settings.Profile :=
  match Settings.Profile.named? (Text.lowered o.profile) with
  | .ok p => pure p
  | .error _ =>
    fail ("Invalid profile: " ++ o.profile)
      ("Valid values: " ++ String.intercalate ", " (Settings.Profile.builtin.map (·.name)))

/-- The settings that the options ask for. -/
def applicationOf (o : Options) : Settings.Application where
  machine := .standard
  font := { Settings.FontAccess.standard with fontDir := o.fontDir }
  logging := { Settings.Logging.standard with
    logFile := o.logFile?
    logLevel := if o.quiet then "WARNING" else o.logLevel }

/-- Sets up the log. -/
def startLog (quiet : Bool) (l : Settings.Logging) : Plotting Unit := do
  let d ← get
  let setup : Setup := ⟨l.logFile, l.logLevel, l.fileLogLevel, quiet⟩
  let (handlers, tree, done) := setup.run (Content.journal []) d.tree
  set { d with handlers := handlers, tree := tree }
  match done with
  | .error e => throw (.escaped (.setup e))
  | .ok () => note (.loggingStarted (l.logFile.map Files.Path.toString))

/-- Stops with an error of a compilation. -/
def raise {α : Type} (e : CompileError) : Plotting α := throw (.escaped (.compilation e))

/-- The text of a template, filled in with the fields of the options. None of
the templates that are built in shows the date. -/
def fillTemplate (name : String) (fields : List String) : Plotting String :=
  match Template.named? name with
  | .error fault => raise (.request fault)
  | .ok template =>
    match Template.readEntries fields with
    | .error e => throw (.usage (.badField e.entry))
    | .ok values =>
      match template.render values "" with
      | .error fault => raise (.request fault)
      | .ok text => pure text

/-- The text to plot: from a template, from the standard input, or as given. -/
def findText (o : Options) (stdin : String) : Plotting String :=
  match o.template?, o.text? with
  | some _, some _ => fail "Cannot use TEXT and --template together" ""
  | some name, none => fillTemplate name o.fields
  | none, some "-" => pure (String.ofList (Text.withLineFeeds stdin.toList))
  | none, text? => pure (text?.getD "")

/-- A value that was checked; its problems end the run. -/
def accept {α : Type} : Settings.Checked α → Plotting α
  | .ok a => pure a
  | .failed problems => throw (.escaped (.settings problems))

/-- The overrides of a style. -/
def styleOverrides (o : Options) : List (String × Json) := [
  ("font", (o.font?.map Json.str).getD .null),
  ("font_path", (o.fontPath?.map fun p => Json.str p.toString).getD .null),
  ("font_size", (o.fontSize?.map Json.real).getD .null),
  ("margin_x", (o.marginX?.map Json.real).getD .null),
  ("margin_y", (o.marginY?.map Json.real).getD .null),
  ("line_height", (o.lineHeight?.map Json.real).getD .null),
  ("letter_spacing", (o.letterSpacing?.map Json.real).getD .null)]

/-- The overrides of a machine. -/
def machineOverrides (o : Options) : List (String × Json) := [
  ("curve_steps", (o.curveSteps?.map Json.integer).getD .null),
  ("close_contours", (o.closeContours?.map Json.bool).getD .null)]

/-- Tells what is about to be compiled. -/
def announce (o : Options) (p : Settings.Profile) (style : Settings.Style)
    (m : Settings.Machine) : Plotting Unit := do
  print (Console.header version)
  let font :=
    if style.fontReference?.any (· ≠ "") then (Font.locator? style o.fontDir).getD "(none)"
    else "(none)"
  print (Console.profileInfo p.name font style.fontSize.value m.curveSteps.value)
  print (Console.step "Compiling")

/-- Compiles the text, noting what happens. -/
def compileText (app : Settings.Application) (clock : Clock) (text : String)
    (style : Settings.Style) (m : Settings.Machine) : Plotting (Gcode.Program × Stats) := do
  let source := Font.Source.files ((← get).tree.map Content.asFont)
  let (reply, compiler) :=
    (Compiler.fresh app false clock).compile source (some text) (some style) (some m)
  reply.trail.events.forM note
  match reply.answer with
  | .ok program => pure (program, compiler.stats)
  | .error e => raise e

/-- Writes the program to a file. -/
def writeProgram (path : Files.Path) (text : String) : Plotting Unit := do
  let d ← get
  match d.tree.write path (.text text) with
  | .ok tree => set { d with tree := tree }
  | .error e => fail ("Could not write output: " ++ e.message path.toString) ""

/-! ## The run -/

/-- Finds the profile and sets up the log. -/
def prepare (o : Options) : Plotting Settings.Profile := do
  let profile ← findProfile o
  startLog o.quiet (applicationOf o).logging
  pure profile

/-- Makes the program that the options ask for. -/
def makeProgram (o : Options) (stdin : String) (clock : Clock) (profile : Settings.Profile) :
    Plotting (Gcode.Program × Stats) := do
  let text ← findText o stdin
  let style ← accept (profile.style.override (styleOverrides o))
  let machine ← accept (profile.machine.override (machineOverrides o))
  if o.output?.isSome && !o.quiet then announce o profile style machine
  compileText (applicationOf o) clock text style machine

/-- Tells of a program that was written to a file. -/
def summary (path : Files.Path) (program : Gcode.Program) (stats : Stats) : Console.Printout :=
  Console.success path.toString stats.duration program.size stats.glyphsTraced
    stats.glyphsSkipped stats.skippedChars

/-- Puts a program where the options want it, and tells of a file. -/
def deliver (o : Options) (program : Gcode.Program) (stats : Stats) : Plotting Unit :=
  match o.output? with
  | none => modify fun d => { d with output := program.text }
  | some path => do
    writeProgram path program.text
    if !o.quiet then print (summary path program stats)

/-- The work: the program is made and delivered. -/
def work (o : Options) (stdin : String) (clock : Clock) (profile : Settings.Profile) :
    Plotting Unit := do
  let (program, stats) ← makeProgram o stdin clock profile
  deliver o program stats

/-- Reports what ended the work, if it is an error that a report is meant for; all
else goes through. -/
def rescue : Stop → Plotting Unit
  | .escaped (.compilation (.font error)) =>
    fail ("Could not load font: " ++ error.problem.reason) error.locator
  | .escaped (.compilation e) =>
    match e.message?, e.stage? with
    | some message, some stage => fail message ("stage: " ++ stage)
    | _, _ => raise e
  | stop => throw stop

/-- The run. -/
def plot (o : Options) (stdin : String) (clock : Clock) : Plotting Unit := do
  let profile ← prepare o
  tryCatch (work o stdin clock profile) rescue

/-- How a run ended. -/
inductive Ending where
  | success
  | usage (error : UsageError)
  | failure (escape? : Option Escape)

/-- The exit code of an ending. -/
def Ending.exitCode : Ending → Nat
  | .success => 0
  | .usage _ => 2
  | .failure _ => 1

/-- Does what the arguments ask for. -/
def run (args : List String) (stdin : String) (clock : Clock) (tree : Files.Tree Content) :
    Ending × Desk :=
  let desk : Desk := { tree := tree }
  match demand args with
  | .error e => (.usage e, desk)
  | .ok .help => (.success, desk)
  | .ok .version =>
    let p := Console.printMarked ("[bold blue]Plottext[/bold blue] v" ++ version)
    (.success, { desk with console := [.text p.text] })
  | .ok (.plot o) =>
    match (plot o stdin clock).run.run desk with
    | (.ok (), desk) => (.success, desk)
    | (.error (.usage e), desk) => (.usage e, desk)
    | (.error .reported, desk) => (.failure none, desk)
    | (.error (.escaped e), desk) => (.failure (some e), desk)

end PenPlot.CommandLine
