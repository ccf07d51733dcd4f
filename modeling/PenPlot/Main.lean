-- The command: it looks at the files that a run may touch, does the run, and
-- writes what the run left on its desk.
import PenPlot.CommandLine.Plot
import PenPlot.Json.Writer

namespace PenPlot.CommandLine

/-- The help text. -/
def helpText : String :=
  "Usage: plottext [OPTIONS] [TEXT]\n\n  Compile TEXT into a pen-plotter G-code program.\n\nOptions:\n" ++
    String.join (longNames.map fun l => "  " ++ l.1 ++ "\n")

/-- The wording of a usage error. -/
def UsageError.message : UsageError → String
  | .unknownOption option => "No such option: " ++ option
  | .valueMissing => "An option requires an argument"
  | .valueNotTaken option => "Option " ++ option ++ " does not take a value"
  | .badValue _ value => "Invalid value: " ++ Text.quoted value
  | .extraArgument value => "Got unexpected extra argument " ++ Text.quoted value
  | .badField entry => (Template.BadEntry.mk entry).message

/-- The wording of a fault that ended a run. -/
def Escape.message : Escape → String
  | .report (.markup (.notOpen tag)) =>
    "closing tag " ++ Text.quoted (String.ofList tag) ++ " closes no open tag"
  | .report (.markup (.notLiteral argument)) =>
    "the argument " ++ Text.quoted (String.ofList argument) ++ " is no literal"
  | .report (.markup (.badComponent fault)) => fault.message
  | .report (.argument fault) => fault.message?.getD "an argument does not fit"
  | .report (.uncut _) => "a line cannot be cut off"
  | .setup (.file e) => e.message "log file"
  | .setup (.unknownLevel name) => "unknown level " ++ Text.quoted name
  | .setup e => e.message?.getD "no level is meant"
  | .settings problems => String.intercalate "; " (problems.map fun p => p.cause.message)
  | .compilation e => e.message?.getD "the font cannot be used"

/-- The paths of the fonts that a run may load. -/
def Options.fontPaths (o : Options) : List Files.Path :=
  match o.fontPath?, o.font? with
  | some path, _ => [path]
  | none, some font => [o.fontDir.join (.ofString (Font.fileName font))]
  | none, none =>
    (Settings.Profile.builtin.filterMap fun p => p.style.font).map fun font =>
      o.fontDir.join (.ofString (Font.fileName font))

/-- A path and the paths of the directories above it. -/
def stages (p : Files.Path) : List Files.Path :=
  (List.range p.names.length).map fun i => { p with names := p.names.take (i + 1) }

/-- Adds to a tree what stands on the disk at a path; the text of a file is read
only if it is wanted. -/
def probe (wanted : Bool) (tree : Files.Tree Content) (p : Files.Path) :
    IO (Files.Tree Content) := do
  let path := (← IO.currentDir) / p.toString
  if ← path.isDir then pure (tree.put p.place .directory)
  else if !(← path.pathExists) then pure tree
  else if wanted then
    let bytes ← IO.FS.readBinFile path
    pure (tree.put p.place (.file (.text ((String.fromUTF8? bytes).getD ""))))
  else pure (tree.put p.place (.file .anything))

/-- What stands on the disk where a run may look. -/
def survey (o : Options) : IO (Files.Tree Content) := do
  let others := o.output?.toList ++ o.logFile?.toList.map Files.Path.collapsed
  let tree ← (others.flatMap stages).foldlM (probe false) ⟨[]⟩
  (o.fontPaths.flatMap stages).foldlM (probe true) tree

/-- The line of a log file for an event. -/
def logLine (e : Event) : String :=
  e.level.name ++ " | " ++ e.source ++ " | " ++ (if e.isPlain then e.words else Json.write e.record) ++ "\n"

/-- Writes what a run changed: its output, and what it noted in its log file. -/
def store (o : Options) (desk : Desk) : IO Unit := do
  match o.output? with
  | some path =>
    match desk.tree.look path with
    | .ok (.file (.text program)) => IO.FS.writeFile ((← IO.currentDir) / path.toString) program
    | _ => pure ()
  | none => pure ()
  match desk.handlers.file? with
  | some (path, _) =>
    match desk.tree.look path with
    | .ok (.file (.journal events)) =>
      IO.FS.withFile ((← IO.currentDir) / path.toString) .append fun h =>
        h.putStr (String.join (events.map logLine))
    | _ => pure ()
  | none => pure ()

/-- All that a stream has to give. -/
partial def readAll (stream : IO.FS.Stream) (seen : String) : IO String := do
  let line ← stream.getLine
  if line.isEmpty then pure seen else readAll stream (seen ++ line)

/-- The time in seconds. -/
def now : IO Float := do pure (Float.ofNat (← IO.monoNanosNow) / 1e9)

/-- Shows what a run left on the console. -/
def display (desk : Desk) : IO Unit := do
  let err ← IO.getStderr
  for shown in desk.console do
    match shown with
    | .text text => err.putStr text
    | .event e => err.putStrLn (if e.isPlain then e.words else Json.write e.record)
  (← IO.getStdout).putStr desk.output

/-- A run with the options that its arguments give. It is done once to see how
long it takes, and once more to tell. -/
def perform (args : List String) (o : Options) : IO UInt32 := do
  let tree ← survey o
  let stdin ← if o.text? = some "-" then readAll (← IO.getStdin) "" else pure ""
  let start ← now
  let _ ← IO.lazyPure fun _ => (run args stdin ⟨[start], 0⟩ tree).1.exitCode
  let stop ← now
  let (ending, desk) := run args stdin ⟨[start, stop], 0⟩ tree
  store o desk
  display desk
  match ending with
  | .usage e => IO.eprintln e.message
  | .failure (some e) => IO.eprintln e.message
  | _ => pure ()
  pure (UInt32.ofNat ending.exitCode)

end PenPlot.CommandLine

/-- The command. -/
def main (args : List String) : IO UInt32 := do
  match PenPlot.CommandLine.demand args with
  | .ok .help =>
    IO.print PenPlot.CommandLine.helpText
    pure 0
  | .ok (.plot o) => PenPlot.CommandLine.perform args o
  | _ => PenPlot.CommandLine.perform args {}
