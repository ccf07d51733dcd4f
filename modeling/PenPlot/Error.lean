-- What can go wrong with a compilation. Each error names its cause and knows
-- the stage it belongs to and its wording.
import PenPlot.Font.File
import PenPlot.Text.Quoted

namespace PenPlot

/-- What is wrong with a request. -/
inductive RequestFault where
  | textMissing
  | textBlank
  | styleMissing
  | fontNotNamed
  | fieldsMissing (label : String) (names : List String)
  | unknownTemplate (name : String) (valid : List String)
  deriving DecidableEq, Repr

/-- The wording of a fault of a request. -/
def RequestFault.reason : RequestFault → String
  | .textMissing => "text is required"
  | .textBlank => "text has no non-blank line"
  | .styleMissing => "style is required"
  | .fontNotNamed => "style must include either \"font\" or \"font_path\""
  | .fieldsMissing label names =>
    "template '" ++ label ++ "' is missing required fields: " ++ String.intercalate ", " names
  | .unknownTemplate name valid =>
    "unknown template '" ++ name ++ "' (valid: " ++ String.intercalate ", " valid ++ ")"

/-- Why a font is not there to be used. The limit that ran out is given as it was
written. -/
inductive FontProblem where
  | fault (cause : Font.LoadFault)
  | timedOut (limit : String)
  deriving Repr

/-- The wording of a problem with a font. -/
def FontProblem.reason : FontProblem → String
  | .fault cause => cause.reason
  | .timedOut limit => "timed out after " ++ limit ++ "s"

/-- A font that cannot be loaded: where it was looked for, and why. -/
structure FontError where
  locator : String
  problem : FontProblem
  deriving Repr

/-- What is wrong with an outline. -/
inductive GeometryFault where
  | noMoveTo
  | notFinite (index : Nat) (kind : String)
  | outsidePaper (index : Nat) (kind : String)
  deriving DecidableEq, Repr

/-- The wording of a fault of an outline. -/
def GeometryFault.reason : GeometryFault → String
  | .noMoveTo => "outline does not start with a MoveTo"
  | .notFinite i kind =>
    "non-finite coordinate in segment " ++ toString i ++ " (" ++ kind ++ ")"
  | .outsidePaper i kind =>
    "segment " ++ toString i ++ " (" ++ kind ++ ") maps outside finite output space"

/-- An error of a compilation. The last four are not reports about the request
but faults that show only once the font, the style or the text is used. -/
inductive CompileError where
  | request (fault : RequestFault)
  | font (error : FontError)
  | geometry (char : String) (fault : GeometryFault)
  /-- The font was to be located, and the style names none. -/
  | noLocator
  /-- There is no style. -/
  | noStyle
  /-- There is no text. -/
  | noText
  /-- The font gave no answer. -/
  | unusableFont (fault : Font.Fault)
  deriving Repr

/-- The wording of a reported geometry fault. -/
def geometryMessage (char : String) (fault : GeometryFault) : String :=
  "Bad outline for " ++ Text.quoted char ++ ": " ++ fault.reason

/-- The wording of an error, where it has one. -/
def CompileError.message? : CompileError → Option String
  | .request fault => some ("Invalid request: " ++ fault.reason)
  | .font e => some ("Failed to load font '" ++ e.locator ++ "': " ++ e.problem.reason)
  | .geometry char fault => some (geometryMessage char fault)
  | .noLocator => some "style names neither font nor font_path"
  | .unusableFont fault => fault.message?
  | .noStyle | .noText => none

/-- The stage at which a reported error stopped the compilation. -/
def CompileError.stage? : CompileError → Option String
  | .request _ => some "request validation"
  | .font _ => some "font load"
  | .geometry _ _ => some "geometry"
  | .noLocator | .noStyle | .noText | .unusableFont _ => none

end PenPlot
