-- Font files. Loading reads the file in a fixed order (it is opened, then come
-- the head, the horizontal metrics and the character map), and a damaged file
-- stops the loading at the first part that cannot be read.
import PenPlot.Files.Tree
import PenPlot.Font.Tables

namespace PenPlot.Font

/-- The parts of a file in the order in which they are read. -/
inductive Part where
  | opening
  | head
  | horizontalMetrics
  | charMap
  deriving DecidableEq, Repr

/-- How a part fails to be read. -/
inductive Damage where
  | badValue (text : String)
  | missingEntry (text : String)
  | unreadable (text : String)
  deriving DecidableEq, Repr

/-- The word for a kind of damage. -/
def Damage.kindName : Damage → String
  | .badValue _ => "ValueError"
  | .missingEntry _ => "KeyError"
  | .unreadable _ => "OSError"

/-- What a report says about the damage: its text, quoted where it is the name
of an entry, or the kind of damage where there is no text. -/
def Damage.reason : Damage → String
  | .badValue "" => "ValueError"
  | .missingEntry "" => "KeyError"
  | .unreadable "" => "OSError"
  | .badValue text => text
  | .missingEntry text => Text.quoted text
  | .unreadable text => text

/-- A font file: the tables, the part that is damaged, and whether opening the
file takes a while. -/
structure File where
  tables : Tables
  damage? : Option (Part × Damage)
  stalls : Bool

/-- The time that a file which stalls takes to open, in seconds. -/
def stallSeconds : Float := 0.2

/-- Why a font cannot be loaded. -/
inductive LoadFault where
  | missing
  | noFile (error : Files.PathError) (path : String)
  | damaged (damage : Damage)
  deriving DecidableEq, Repr

/-- What a report says about the failure. -/
def LoadFault.reason : LoadFault → String
  | .missing => "file not found"
  | .noFile error path => error.message path
  | .damaged damage => damage.reason

/-- What a path leads to when a font is to be loaded from it. -/
abbrev Found := Except Files.PathError (Files.Entry File)

/-- Reads a font from what its path leads to. -/
def read (path : String) : Found → Except LoadFault Tables
  | .error .nameTooLong => .error (.noFile .nameTooLong path)
  | .error _ => .error .missing
  | .ok .directory => .error (.noFile .isDirectory path)
  | .ok (.file file) =>
    match file.damage? with
    | some (_, damage) => .error (.damaged damage)
    | none => .ok file.tables

/-- The damage to a part of a file, if that is the damaged one. -/
def File.damageAt? (file : File) (part : Part) : Option Damage :=
  match file.damage? with
  | some (place, damage) => if place = part then some damage else none
  | none => none

/-- Opens the file that a path leads to. -/
def openFile (path : String) : Found → Except LoadFault File
  | .error .nameTooLong => .error (.noFile .nameTooLong path)
  | .error _ => .error .missing
  | .ok .directory => .error (.noFile .isDirectory path)
  | .ok (.file file) =>
    match file.damageAt? .opening with
    | some damage => .error (.damaged damage)
    | none => .ok file

/-- Whether a font file was opened, so that it has to be closed again. -/
def wasOpened : Found → Bool
  | .ok (.file file) =>
    match file.damage? with
    | some (part, _) => part ≠ .opening
    | none => true
  | _ => false

end PenPlot.Font
