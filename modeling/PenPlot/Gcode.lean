-- Machine programs: the commands as lines of G-code, between a header that
-- sets the machine up and a footer that sends it home.
import PenPlot.Json.Shown
import PenPlot.Toolpath

namespace PenPlot.Gcode

open Toolpath

/-- The word that sets the speed. -/
def feed (m : Settings.Machine) : String := "F" ++ toString m.feedRate.value

/-- The line that moves the pen to a height. -/
def heightLine (m : Settings.Machine) (z : Float) : String :=
  "G1G90 Z" ++ Number.fixed 1 z ++ feed m

/-- The line that lifts the pen. -/
def liftLine (m : Settings.Machine) : String := heightLine m m.liftHeight.value

/-- The line that lowers the pen. -/
def lowerLine (m : Settings.Machine) : String := heightLine m m.drawDepth.value

/-- The words for a position. -/
def positionWords (m : Settings.Machine) (p : Position) : String :=
  "X" ++ Number.fixed m.coordinatePrecision.value p.x ++ "Y" ++ Number.fixed m.coordinatePrecision.value p.y

/-- The line for a command. -/
def commandLine (m : Settings.Machine) : Command → String
  | .travel p => "G0 " ++ positionWords m p ++ feed m
  | .draw p => "G1 " ++ positionWords m p ++ feed m
  | .lift => liftLine m
  | .lower => lowerLine m

/-- A program in its three parts; no line of it ends in a line feed. -/
structure Program where
  header : List String
  body : List String
  footer : List String
  deriving DecidableEq, Repr

/-- Millimetres, absolute positions, the speed, and the pen lifted twice. -/
def header (m : Settings.Machine) : List String := ["G21", "G90", feed m, liftLine m, liftLine m]

/-- The pen lifted, the way home, and the end of the program. -/
def footer (m : Settings.Machine) : List String := [liftLine m, "G90 G0 X0 Y0", "M30"]

/-- The program that carries out commands. -/
def emit (m : Settings.Machine) (commands : List Command) : Program :=
  ⟨header m, commands.map (commandLine m), footer m⟩

/-- All lines of a program. -/
def Program.lines (p : Program) : List String := p.header ++ p.body ++ p.footer

/-- The text of a program: every line with a line feed after it. -/
def Program.text (p : Program) : String := String.join (p.lines.map (· ++ "\n"))

/-- The number of lines. -/
def Program.size (p : Program) : Nat := p.header.length + p.body.length + p.footer.length

/-- The number of lines counts every line once. -/
theorem Program.size_eq_length_lines (p : Program) : p.size = p.lines.length := by
  simp [Program.size, Program.lines, Nat.add_assoc]

/-- The wording of an error in a written command; a record of nothing has none. -/
def recordErrorMessage? : RecordError → Option String
  | .noKind => none
  | .unknownKind kind => some (kind.shown ++ " is not a valid CommandKind")
  | .noPosition kind => some (kind ++ " command needs a position")

end PenPlot.Gcode
