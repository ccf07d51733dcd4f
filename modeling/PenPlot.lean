import PenPlot.Font.Reader
import PenPlot.Main
import PenPlot.Console.Width
import PenPlot.Console.Wrapping
import PenPlot.Text.Digit
import PenPlot.Console.Color
import PenPlot.Console.Emoji
import PenPlot.Console.Literal
import PenPlot.Console.StyleName
import PenPlot.Proofs.Toolpath.Pen
import PenPlot.Proofs.Toolpath.Stroke
import PenPlot.Proofs.Compilation.Text
import PenPlot.Proofs.Compilation.Beginning
import PenPlot.Proofs.Compiler.Errors
import PenPlot.Proofs.Toolpath.Finite
import PenPlot.Proofs.Toolpath.Alike
import PenPlot.Proofs.Gcode.Text
import PenPlot.Proofs.Compilation.Stream
import PenPlot.Proofs.Gcode.Decoding
import PenPlot.Proofs.Compiler.Padding
import PenPlot.Proofs.Toolpath.Drift
import PenPlot.Proofs.Font.Reader
import PenPlot.Proofs.Compiler.Reuse
import PenPlot.Proofs.Compiler.Books
import PenPlot.Proofs.Font.LastLoaded
import PenPlot.Proofs.Font.Components
import PenPlot.Proofs.CommandLine.Output
import PenPlot.Proofs.CommandLine.Errors
import PenPlot.Proofs.Gcode.Signs
import PenPlot.Proofs.Layout.Rows
import PenPlot.Proofs.Geometry.Placing
import PenPlot.Proofs.Compilation.Skips
import PenPlot.Proofs.Template.Rendering
import PenPlot.Proofs.Font.Locator
import PenPlot.Proofs.Settings.Overrides
import PenPlot.Proofs.Template.Entries
import PenPlot.Proofs.Console.Skipped
import PenPlot.Proofs.Console.Duration
