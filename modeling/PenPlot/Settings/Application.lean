-- The settings of the whole application: the machine, where fonts are found
-- and how long to wait for them, and what is logged.
import PenPlot.Settings.Machine

namespace PenPlot.Settings

/-- How fonts are found and loaded. -/
structure FontAccess where
  fontDir : Files.Path
  loadTimeout : Duration
  cacheFonts : Bool
  deriving DecidableEq, Repr

/-- The font access of which nothing is said. -/
def FontAccess.standard : FontAccess where
  fontDir := .ofString "fonts"
  loadTimeout := ⟨30.0, by decide⟩
  cacheFonts := false

/-- Checks the fields of the font access. -/
def FontAccess.check (fields : List (String × Json)) : Checked FontAccess :=
  let start := FontAccess.standard
  FontAccess.mk
    <$> optionalField "font_dir" start.fontDir (scalar readPath) fields
    <*> optionalField "load_timeout" start.loadTimeout (scalar readDuration) fields
    <*> optionalField "cache_fonts" start.cacheFonts (scalar readTruth) fields

/-- The fields of the font access as they are written out. -/
def FontAccess.fields (f : FontAccess) : List (String × Json) := [
  ("font_dir", .str f.fontDir.toString),
  ("load_timeout", .real f.loadTimeout.value),
  ("cache_fonts", .bool f.cacheFonts)]

/-- What is logged: the file to log to, and the least level for the console
and for the file, by name. -/
structure Logging where
  logFile : Option Files.Path
  logLevel : String
  fileLogLevel : String
  deriving DecidableEq, Repr

/-- The logging settings of which nothing is said. -/
def Logging.standard : Logging := ⟨none, "WARNING", "DEBUG"⟩

/-- Checks the fields of the logging settings. -/
def Logging.check (fields : List (String × Json)) : Checked Logging :=
  let start := Logging.standard
  Logging.mk
    <$> optionalField "log_file" start.logFile (nullable (scalar readPath)) fields
    <*> optionalField "log_level" start.logLevel (scalar readText) fields
    <*> optionalField "file_log_level" start.fileLogLevel (scalar readText) fields

/-- The fields of the logging settings as they are written out. -/
def Logging.fields (l : Logging) : List (String × Json) := [
  ("log_file", (l.logFile.map fun p => Json.str p.toString).getD .null),
  ("log_level", .str l.logLevel),
  ("file_log_level", .str l.fileLogLevel)]

/-- The settings of the application. -/
structure Application where
  machine : Machine
  font : FontAccess
  logging : Logging
  deriving DecidableEq, Repr

/-- The settings of which nothing is said. -/
def Application.standard : Application := ⟨.standard, .standard, .standard⟩

/-- Checks the fields of the application's settings. -/
def Application.check (fields : List (String × Json)) : Checked Application :=
  let start := Application.standard
  Application.mk
    <$> optionalField "machine" start.machine (record "MachineProfile" Machine.check) fields
    <*> optionalField "font" start.font (record "FontConfig" FontAccess.check) fields
    <*> optionalField "logging" start.logging (record "LoggingConfig" Logging.check) fields

/-- The fields of the application's settings as they are written out. -/
def Application.fields (a : Application) : List (String × Json) := [
  ("machine", .obj a.machine.fields),
  ("font", .obj a.font.fields),
  ("logging", .obj a.logging.fields)]

end PenPlot.Settings
