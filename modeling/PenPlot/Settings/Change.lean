-- Changing settings after they were checked. Styles, machines and profiles
-- cannot be changed; the other records take any value for a field that they
-- have. Every record takes notes beside its fields, under names that start with
-- an underscore. Overrides, on the other hand, build a new record and check it
-- anew.
import PenPlot.Settings.Application
import PenPlot.Settings.Profile

namespace PenPlot.Settings

/-! ## Kinds of records -/

/-- The kinds of records. -/
inductive Kind where
  | style
  | machine
  | profile
  | font
  | logging
  | application
  deriving DecidableEq, Repr

/-- The name that a kind of record has in reports. -/
def Kind.recordName : Kind → String
  | .style => "StyleProfile"
  | .machine => "MachineProfile"
  | .profile => "PlotterProfile"
  | .font => "FontConfig"
  | .logging => "LoggingConfig"
  | .application => "PlottextSettings"

/-- Whether a record stays as it is once it is checked. -/
def Kind.isFrozen : Kind → Bool
  | .style | .machine | .profile => true
  | .font | .logging | .application => false

/-! ## Assigning -/

/-- Why a field cannot be assigned. -/
inductive AssignError where
  | frozen (field : String)
  | noField (record field : String)
  | derived (field : String)
  | notOfItsKind (field : String)
  deriving DecidableEq, Repr

/-- The names for what a record derives from its fields, and does not hold. -/
def derivedNames : List String := ["model_extra", "model_fields_set"]

/-- The notes that a record keeps for itself, and so cannot be given. -/
def derivedNotes : List String := ["__fields__", "__fields_set__", "__weakref__"]

/-- The note that tells the kind of a record. No value is a kind. -/
def kindNote : String := "__class__"

/-- The note that holds all fields of a record. -/
def fieldsNote : String := "__dict__"

/-- The note that writes out a record. No value can take its part. -/
def writerNote : String := "__pydantic_serializer__"

/-- The name of the call that has a record written out. Among the fields of a record
no value can take its part. -/
def callName : String := "model_dump"

/-- Why a record cannot be written out any more: a value stands where it is called
for that, or where its writer was. -/
inductive Unwritable where
  | call
  | writer
  deriving DecidableEq, Repr

/-- What a record holds once something was assigned: its fields, if it can still be
written out. -/
abbrev Assigned := Except Unwritable (List (String × Json))

/-- The wording of the error for a field that the record does not have. -/
def noFieldMessage (record field : String) : String :=
  "\"" ++ record ++ "\" object has no field \"" ++ field ++ "\""

/-- The fields of a record that are given all at once. What is given beside them is
not written out, but it may stand in the way of that. -/
def givenFields (fields given : List (String × Json)) : Assigned :=
  if given.any fun g => g.1 == callName then .error .call
  else if given.any fun g => g.1 == writerNote then .error .writer
  else .ok (given.filter fun g => fields.any fun f => f.1 == g.1)

/-- Writes a note beside the fields of a record, whether or not the record can be
changed. The fields stay as they are, unless all of them are given at once. -/
def assignNote (fields : List (String × Json)) (note : String) (value : Json) :
    Except AssignError Assigned :=
  if derivedNotes.contains note then .error (.derived note)
  else if note = kindNote then .error (.notOfItsKind note)
  else if note = fieldsNote then
    match value with
    | .obj given => .ok (givenFields fields given)
    | _ => .error (.notOfItsKind note)
  else if note = writerNote then .ok (.error .writer)
  else .ok (.ok fields)

/-- Assigns a field of a record, or a note beside its fields. -/
def assign (kind : Kind) (fields : List (String × Json)) (field : String) (value : Json) :
    Except AssignError Assigned :=
  if field.toList.head? = some '_' then assignNote fields field value
  else if kind.isFrozen then .error (.frozen field)
  else if derivedNames.contains field then .error (.derived field)
  else if fields.any (fun f => f.1 == field) then
    .ok (.ok (Json.setField fields field value))
  else .error (.noField kind.recordName field)

/-- A note other than the reserved ones leaves the fields as they are. -/
theorem assignNote_eq_ok {fields : List (String × Json)} {note : String} (value : Json)
    (h : note ∉ derivedNotes ∧ note ≠ kindNote ∧ note ≠ fieldsNote ∧ note ≠ writerNote) :
    assignNote fields note value = .ok (.ok fields) := by
  simp [assignNote, h]

/-! ## Overrides -/

/-- Fields with others laid over them; a null leaves what was there. -/
def overlay (fields overrides : List (String × Json)) : List (String × Json) :=
  overrides.foldl (fun fields o =>
    match o.2 with
    | .null => fields
    | value => Json.setField fields o.1 value) fields

/-- The name of the record that overrides are laid over. It is not theirs to
give. -/
def baseName : String := "base"

/-- Whether overrides try to give the record that they are laid over. -/
def givesBase (overrides : List (String × Json)) : Bool := overrides.any fun o => o.1 == baseName

/-- A style with some of its fields replaced. -/
def Style.override (s : Style) (overrides : List (String × Json)) : Checked Style :=
  Style.check (overlay s.fields overrides)

/-- A machine with some of its fields replaced. -/
def Machine.override (m : Machine) (overrides : List (String × Json)) : Checked Machine :=
  Machine.check (overlay m.fields overrides)

end PenPlot.Settings
