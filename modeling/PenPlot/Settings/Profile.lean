-- Profiles: a style and a machine under one name. Two of them are built in.
import PenPlot.Json.Shown
import PenPlot.Settings.Machine
import PenPlot.Settings.Style

namespace PenPlot.Settings

/-- A profile. -/
structure Profile where
  name : String
  style : Style
  machine : Machine
  deriving DecidableEq, Repr

/-- Checks the fields of a profile. -/
def Profile.check (fields : List (String × Json)) : Checked Profile :=
  Profile.mk
    <$> requiredField "name" (scalar readText) fields
    <*> optionalField "style" .standard (record "StyleProfile" Style.check) fields
    <*> optionalField "machine" .standard (record "MachineProfile" Machine.check) fields

/-- The fields of a profile as they are written out. -/
def Profile.fields (p : Profile) : List (String × Json) := [
  ("name", .str p.name),
  ("style", .obj p.style.fields),
  ("machine", .obj p.machine.fields)]

/-- The profile for finished cards. -/
def Profile.api : Profile where
  name := "api"
  style := { Style.standard with font := some "Quicksand" }
  machine := .standard

/-- The profile for small previews, with few steps to a curve. -/
def Profile.preview : Profile where
  name := "preview"
  style := { Style.standard with
    font := some "Quicksand"
    fontSize := ⟨4.0, by decide, by decide⟩
    marginX := ⟨-2.351, by decide⟩
    marginY := ⟨-3.679, by decide⟩
    lineHeight := some ⟨4.3, by decide, by decide⟩
    letterSpacing := ⟨0.0, by decide⟩
    advanceScale := ⟨0.3, by decide, by decide, by decide⟩ }
  machine := { Machine.standard with
    liftHeight := ⟨0.5, by decide⟩
    drawDepth := ⟨-5.0, by decide⟩
    curveSteps := ⟨2, by decide, by decide⟩ }

/-- The profiles that are built in. -/
def Profile.builtin : List Profile := [Profile.api, Profile.preview]

/-- A value that is not the name of a built-in profile. -/
structure UnknownProfile where
  given : Json
  deriving Repr

/-- The wording of the error. -/
def UnknownProfile.message (e : UnknownProfile) : String :=
  e.given.shown ++ " is not a valid ProfileName"

/-- The built-in profile with a name. -/
def Profile.named? (name : String) : Except UnknownProfile Profile :=
  match Profile.builtin.find? fun p => p.name == name with
  | some p => .ok p
  | none => .error ⟨.str name⟩

/-- The built-in profile that a value names. -/
def Profile.ofJson? : Json → Except UnknownProfile Profile
  | .str name => Profile.named? name
  | value => .error ⟨value⟩

end PenPlot.Settings
