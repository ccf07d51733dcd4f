-- Handlers: where the events of a run are noted. There is a handler for the
-- console, and one for a file if a file is named; each has a least level. A
-- new setup starts from nothing, and what was set up before an error stays.
import PenPlot.Files.Tree
import PenPlot.Journal.Event
import PenPlot.Text.Upper

namespace PenPlot

/-- The handlers that are there. -/
structure Handlers where
  file? : Option (Files.Path × Level) := none
  console? : Option Level := none

/-- Why handlers cannot be set up. -/
inductive SetupError where
  | file (error : Files.PathError)
  | nullInPath
  | unknownLevel (name : String)
  | formatAsLevel (format : String)
  | stylesAsLevel
  deriving DecidableEq, Repr

/-- The wording of an error that is about a value and not about a file. -/
def SetupError.message? : SetupError → Option String
  | .nullInPath => some "embedded null byte"
  | .formatAsLevel format => some ("Unknown level: " ++ Text.quoted format)
  | _ => none

/-- What the handlers are set up with. -/
structure Setup where
  logFile? : Option Files.Path := none
  consoleLevel : String := "WARNING"
  fileLevel : String := "DEBUG"
  quiet : Bool := false

/-- The names under which a setup is given. -/
def Setup.names : List String := ["log_file", "console_level", "file_level", "quiet"]

/-! ## Levels -/

/-- The format of a plain line, which has a name among the levels. -/
def plainFormat : String := "%(levelname)s:%(name)s:%(message)s"

/-- The level with a name in letters of either case. Among the names are two that
stand for something else: a format, and the table of styles. -/
def Setup.level (name : String) : Except SetupError Level :=
  let capitals := Text.upperAscii name
  match Level.named? capitals with
  | some level => .ok level
  | none =>
    if capitals = "BASIC_FORMAT" then .error (.formatAsLevel plainFormat)
    else if capitals = "_STYLES" then .error .stylesAsLevel
    else .error (.unknownLevel name)

/-! ## Setting up -/

variable {α : Type}

/-- The file handler, if a file is named: the file is opened, and then the
level is looked up. A file that is not there yet starts as `blank`. -/
def Setup.openFile (s : Setup) (blank : α) (tree : Files.Tree α) :
    Files.Tree α × Except SetupError (Option (Files.Path × Level)) :=
  match s.logFile? with
  | none => (tree, .ok none)
  | some path =>
    if path.hasNull then (tree, .error .nullInPath)
    else
      match tree.modify path.collapsed (·.getD blank) with
      | .error e => (tree, .error (.file e))
      | .ok tree => (tree, (Setup.level s.fileLevel).map fun level => some (path.collapsed, level))

/-- Sets up the handlers: the one for the file, then the one for the console,
which shows errors alone where the run is quiet. -/
def Setup.run (s : Setup) (blank : α) (tree : Files.Tree α) :
    Handlers × Files.Tree α × Except SetupError Unit :=
  match s.openFile blank tree with
  | (tree, .error e) => ({}, tree, .error e)
  | (tree, .ok file?) =>
    match if s.quiet then .ok .error else Setup.level s.consoleLevel with
    | .error e => ({ file? := file? }, tree, .error e)
    | .ok level => ({ file? := file?, console? := some level }, tree, .ok ())

end PenPlot
