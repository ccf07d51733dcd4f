-- The arguments of reports. A report that is asked for by its name is given its
-- arguments by theirs; each kind of argument says which values it takes.
import PenPlot.Console.Duration
import PenPlot.Json.Shown

namespace PenPlot.Console

/-- Why arguments do not fit a report. -/
inductive ArgumentFault where
  | missing (name : String)
  | unexpected (name : String)
  | wrongKind
  /-- A text stands where a number is to be shown in the format of a letter. -/
  | textAsNumber (letter : Char)
  /-- A whole number is larger than any double. -/
  | tooLarge
  /-- What should be a character is no text. -/
  | notText
  | notFinite (error : NotFinite)
  deriving DecidableEq, Repr

/-- The wording of the faults that have one. -/
def ArgumentFault.message? : ArgumentFault → Option String
  | .textAsNumber ',' => some "Cannot specify ',' with 's'."
  | .textAsNumber letter =>
    some ("Unknown format code " ++ Text.quoted (String.singleton letter) ++
      " for object of type 'str'")
  | .notFinite e => some e.message
  | _ => none

/-! ## Names -/

/-- Arguments under their names. -/
abbrev Arguments := List (String × Json)

/-- Checks that all arguments that a report needs are given, and no others than
those that it takes. -/
def Arguments.check (args : Arguments) (needed optional : List String) :
    Except ArgumentFault Unit :=
  match args.find? fun a => !(needed ++ optional).contains a.1 with
  | some a => .error (.unexpected a.1)
  | none =>
    match needed.find? fun name => !args.any fun a => a.1 == name with
    | some name => .error (.missing name)
    | none => .ok ()

/-- The value under a name; null where there is none. -/
def Arguments.value (args : Arguments) (name : String) : Json := (Json.lookup? name args).getD .null

/-! ## Kinds -/

/-- A text. -/
def textArgument : Json → Except ArgumentFault String
  | .str s => .ok s
  | _ => .error .wrongKind

/-- A number shown in general notation. -/
def generalArgument (j : Json) : Except ArgumentFault String :=
  let ofInteger (n : Int) : Except ArgumentFault String :=
    match Number.ofInt? n with
    | some x => .ok (Number.general x)
    | none => .error .tooLarge
  match j with
  | .bool b => ofInteger (if b then 1 else 0)
  | .integer n => ofInteger n
  | .real x => .ok (Number.general x)
  | .str _ => .error (.textAsNumber 'g')
  | _ => .error .wrongKind

/-- A number shown with commas between its groups of digits. -/
def groupedArgument (j : Json) : Except ArgumentFault String :=
  match j with
  | .bool b => .ok (if b then "1" else "0")
  | .integer n => .ok (Number.grouped n)
  | .real x => .ok (Number.groupedReal x)
  | .str _ => .error (.textAsNumber ',')
  | _ => .error .wrongKind

/-- A whole number of seconds shown as a duration. -/
def wholeDuration (seconds : Int) : Except ArgumentFault String :=
  if seconds < 1 then
    match Number.ofInt? (seconds * 1000) with
    | some x => .ok (Number.fixed 0 x ++ "ms")
    | none => .error .tooLarge
  else if seconds < 60 then .ok (toString seconds ++ ".0s")
  else .ok (toString (seconds / 60) ++ "m " ++ toString (seconds % 60) ++ ".0s")

/-- A number of seconds shown as a duration. -/
def durationArgument (j : Json) : Except ArgumentFault String :=
  match j with
  | .bool b => wholeDuration (if b then 1 else 0)
  | .integer n => wholeDuration n
  | .real x => (duration x).mapError .notFinite
  | _ => .error .wrongKind

/-- Characters: a list of texts, a text character by character, or nothing. -/
def charsArgument (j : Json) : Except ArgumentFault (List String) :=
  if !j.countsAsTrue then .ok []
  else
    match j with
    | .arr items =>
      items.mapM fun item =>
        match item with
        | .str s => .ok s
        | _ => .error .notText
    | .str s => .ok (s.toList.map String.singleton)
    | .obj fields => .ok (fields.map Prod.fst)
    | _ => .error .wrongKind

end PenPlot.Console
