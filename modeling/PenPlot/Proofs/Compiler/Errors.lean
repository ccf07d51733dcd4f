-- The errors of the compiler. A request, a font file that cannot be loaded and a flawed
-- outline are reported as such. What a font that was loaded leaves out comes up only where
-- it is used, and then the error is none of these reports.
import PenPlot.Compiler
import PenPlot.Proofs.Compilation.Outcome
import PenPlot.Proofs.Font.Tables

namespace PenPlot.Compiler

open PenPlot.Compilation

/-- A program that came out, or a report about the request, the font or an outline. -/
inductive Reported : Except CompileError Gcode.Program → Prop
  | program (p : Gcode.Program) : Reported (.ok p)
  | request (fault : RequestFault) : Reported (.error (.request fault))
  | font (error : FontError) : Reported (.error (.font error))
  | geometry (char : String) (fault : GeometryFault) : Reported (.error (.geometry char fault))

/-- The reports are the errors that belong to a stage. -/
theorem reported_error_iff (e : CompileError) : Reported (.error e) ↔ e.stage?.isSome = true := by
  constructor
  · intro h
    cases h <;> rfl
  · intro h
    cases e with
    | request fault => exact .request fault
    | font error => exact .font error
    | geometry char fault => exact .geometry char fault
    | noLocator | noStyle | noText | unusableFont => cases h

instance : DecidablePred Reported
  | .ok p => isTrue (.program p)
  | .error e => decidable_of_iff _ (reported_error_iff e).symm

/-! ## What a font has to answer -/

variable {font : Font.Handle} {text : String} {style : Settings.Style}
  {placements : List (Layout.Placement Float)}

end PenPlot.Compiler
