-- The journal: what is noted while fonts are loaded and texts are compiled.
-- An event is a value; its level, its words and its fields follow from it.
import PenPlot.Json.Basic

namespace PenPlot

/-! ## Levels -/

/-- How much an event matters. -/
inductive Level where
  | unset
  | debug
  | info
  | warning
  | error
  | critical
  deriving DecidableEq, Repr

/-- The weight of a level. -/
def Level.weight : Level → Nat
  | .unset => 0
  | .debug => 10
  | .info => 20
  | .warning => 30
  | .error => 40
  | .critical => 50

/-- The name of a level. -/
def Level.name : Level → String
  | .unset => "NOTSET"
  | .debug => "DEBUG"
  | .info => "INFO"
  | .warning => "WARNING"
  | .error => "ERROR"
  | .critical => "CRITICAL"

/-- The level with a name in capitals; some levels have two names. -/
def Level.named? : String → Option Level
  | "NOTSET" => some .unset
  | "DEBUG" => some .debug
  | "INFO" => some .info
  | "WARNING" | "WARN" => some .warning
  | "ERROR" => some .error
  | "CRITICAL" | "FATAL" => some .critical
  | _ => none

/-! ## Events -/

/-- Something worth noting. -/
inductive Event where
  | loggingStarted (logFile? : Option String)
  | loadingFont (locator : String)
  | fontLoaded (locator format : String) (unitsPerEm : Int)
  | cacheHit (locator : String)
  | textLaidOut (lines characters : Int) (scale : Float)
  | glyphTraced (char : String) (commands contours : Int)
  | glyphSkipped (char reason : String)
  | geometryError (char message kind : String)
  | componentMissing (name : String)
  | compiled (characters : Int) (traced skipped lines : Nat)
  deriving Repr

namespace Event

/-- The level of an event. -/
def level : Event → Level
  | .loggingStarted _ | .fontLoaded .. | .compiled .. => .info
  | .componentMissing _ => .warning
  | .geometryError .. => .error
  | _ => .debug

/-- The part of the program that notes an event. -/
def source : Event → String
  | .loadingFont _ | .fontLoaded .. | .cacheHit _ => "plottext.io.provider"
  | .componentMissing _ => "plottext.io.converter.SegmentPen"
  | _ => "plottext"

/-- The words of an event. -/
def words : Event → String
  | .loggingStarted _ => "Logging initialized"
  | .loadingFont _ => "Loading font"
  | .fontLoaded .. => "Font loaded"
  | .cacheHit _ => "Font cache hit"
  | .textLaidOut .. => "Text laid out"
  | .glyphTraced .. => "Glyph traced"
  | .glyphSkipped .. => "Glyph skipped"
  | .geometryError .. => "Geometry error"
  | .componentMissing name => "glyph '" ++ name ++ "' is missing from glyphSet; skipped"
  | .compiled .. => "Compilation complete"

/-- The fields of an event. -/
def fields : Event → List (String × Json)
  | .loggingStarted logFile? => [("log_file", (logFile?.map Json.str).getD .null)]
  | .loadingFont locator => [("locator", .str locator)]
  | .fontLoaded locator format units =>
    [("locator", .str locator), ("format", .str format), ("upm", .integer units)]
  | .cacheHit locator => [("locator", .str locator)]
  | .textLaidOut lines characters scale =>
    [("lines", .integer lines), ("characters", .integer characters), ("scale", .real scale)]
  | .glyphTraced char commands contours =>
    [("char", .str char), ("commands", .integer commands), ("contours", .integer contours)]
  | .glyphSkipped char reason => [("char", .str char), ("reason", .str reason)]
  | .geometryError char message kind =>
    [("char", .str char), ("error", .str message), ("error_type", .str kind)]
  | .componentMissing _ => []
  | .compiled characters traced skipped lines =>
    [("characters", .integer characters), ("traced", .integer traced),
      ("skipped", .integer skipped), ("lines", .integer lines)]

/-- Whether an event is noted as a line of words alone, without fields. -/
def isPlain : Event → Bool
  | .componentMissing _ => true
  | _ => false

/-- An event as one record: its fields, then where it comes from. -/
def record (e : Event) : Json :=
  .obj (e.fields ++ [("event", .str e.words), ("logger", .str e.source),
    ("level", .str (e.level.name.map Char.toLower))])

end Event

end PenPlot
