-- The options of the command line. The arguments are cut into settings of
-- options, switches and positional arguments; each value is read as its option
-- demands, and of two settings of one option the later one counts.
import PenPlot.Settings.Scalar

namespace PenPlot.CommandLine

/-! ## The options there are -/

/-- The options that take a value. -/
inductive Slot where
  | output
  | profile
  | font
  | fontPath
  | fontDir
  | fontSize
  | marginX
  | marginY
  | lineHeight
  | letterSpacing
  | curveSteps
  | template
  | field
  | logFile
  | logLevel
  deriving DecidableEq, Repr

/-- The options that take none. -/
inductive Switch where
  | closeContours
  | keepContoursOpen
  | quiet
  | version
  | help
  deriving DecidableEq, Repr

/-- An option. -/
inductive Opt where
  | slot (slot : Slot)
  | switch (switch : Switch)
  deriving DecidableEq, Repr

/-- The long names of the options. -/
def longNames : List (String × Opt) := [
  ("--output", .slot .output), ("--profile", .slot .profile), ("--font", .slot .font),
  ("--font-path", .slot .fontPath), ("--font-dir", .slot .fontDir),
  ("--font-size", .slot .fontSize), ("--margin-x", .slot .marginX), ("--margin-y", .slot .marginY),
  ("--line-height", .slot .lineHeight), ("--letter-spacing", .slot .letterSpacing),
  ("--curve-steps", .slot .curveSteps), ("--template", .slot .template), ("--field", .slot .field),
  ("--log-file", .slot .logFile), ("--log-level", .slot .logLevel),
  ("--close-contours", .switch .closeContours), ("--no-close-contours", .switch .keepContoursOpen),
  ("--quiet", .switch .quiet), ("--version", .switch .version), ("--help", .switch .help)]

/-- The letters that stand for options. -/
def letters : List (Char × Opt) := [
  ('o', .slot .output), ('p', .slot .profile), ('f', .slot .font), ('s', .slot .fontSize),
  ('t', .slot .template), ('q', .switch .quiet), ('V', .switch .version)]

/-! ## From arguments to tokens -/

/-- An argument as it was understood. -/
inductive Token where
  | set (slot : Slot) (value : String)
  | on (switch : Switch)
  | positional (value : String)
  deriving DecidableEq, Repr

/-- Why arguments cannot be understood. -/
inductive UsageError where
  | unknownOption (option : String)
  | valueMissing
  | valueNotTaken (option : String)
  | badValue (slot : Slot) (value : String)
  | extraArgument (value : String)
  | badField (entry : String)
  deriving DecidableEq, Repr

/-- What an argument that starts with a dash stands for: tokens, and perhaps an
option whose value is the next argument. -/
abbrev Dashed := List Token × Option Slot

/-- Reads letters after a single dash. Each may stand for a switch; the first
one that takes a value takes the rest of the argument, or the next argument. -/
def readLetters : List Char → Except UsageError Dashed
  | [] => .ok ([], none)
  | c :: rest =>
    match letters.find? fun l => l.1 == c with
    | none => .error (.unknownOption (String.ofList ['-', c]))
    | some (_, .switch s) => (readLetters rest).map fun d => (.on s :: d.1, d.2)
    | some (_, .slot s) =>
      if rest = [] then .ok ([], some s) else .ok ([.set s (String.ofList rest)], none)

/-- Reads an argument that starts with a dash: a long name, with or without an
equals sign and a value, or letters after a single dash. -/
def readDashed (arg : List Char) : Except UsageError Dashed :=
  let name := String.ofList (arg.takeWhile (· ≠ '='))
  let value? := match arg.dropWhile (· ≠ '=') with
    | [] => none
    | _ :: value => some (String.ofList value)
  match longNames.find? (fun l => l.1 == name), value? with
  | some (_, .slot s), some value => .ok ([.set s value], none)
  | some (_, .slot s), none => .ok ([], some s)
  | some (_, .switch _), some _ => .error (.valueNotTaken name)
  | some (_, .switch s), none => .ok ([.on s], none)
  | none, _ =>
    match arg with
    | '-' :: '-' :: _ => .error (.unknownOption name)
    | _ => readLetters (arg.drop 1)

/-- Cuts arguments into tokens. After two dashes every argument is positional,
and so is a single dash. -/
def tokens : List String → Except UsageError (List Token)
  | [] => .ok []
  | arg :: rest =>
    match arg.toList with
    | ['-', '-'] => .ok (rest.map .positional)
    | '-' :: c :: more =>
      match readDashed ('-' :: c :: more) with
      | .error e => .error e
      | .ok (done, none) => (tokens rest).map (done ++ ·)
      | .ok (done, some slot) =>
        match rest with
        | [] => .error .valueMissing
        | value :: rest => (tokens rest).map ((done ++ [.set slot value]) ++ ·)
    | _ => (tokens rest).map (.positional arg :: ·)

/-! ## From tokens to options -/

/-- The options of a run. -/
structure Options where
  text? : Option String := none
  output? : Option Files.Path := none
  profile : String := "api"
  font? : Option String := none
  fontPath? : Option Files.Path := none
  fontDir : Files.Path := .ofString "fonts"
  fontSize? : Option Float := none
  marginX? : Option Float := none
  marginY? : Option Float := none
  lineHeight? : Option Float := none
  letterSpacing? : Option Float := none
  curveSteps? : Option Int := none
  closeContours? : Option Bool := none
  template? : Option String := none
  fields : List String := []
  logFile? : Option Files.Path := none
  logLevel : String := "WARNING"
  quiet : Bool := false

/-- The least font size and line height that may be given. -/
def leastSize : Float := 0.01

/-- Reads a number, in any spelling that a setting may have. -/
def readNumber (slot : Slot) (value : String) : Except UsageError Float :=
  match Settings.realOfText? value with
  | some x => .ok x
  | none => .error (.badValue slot value)

/-- Reads a size, which has to be the least one at least. -/
def readSize (slot : Slot) (value : String) : Except UsageError Float := do
  let x ← readNumber slot value
  if leastSize ≤ x then pure x else throw (.badValue slot value)

/-- Reads a number of steps, from one to a thousand. -/
def readSteps (value : String) : Except UsageError Int :=
  match Settings.integerOfText value with
  | .ok n => if 1 ≤ n ∧ n ≤ 1000 then .ok n else .error (.badValue .curveSteps value)
  | .error _ => .error (.badValue .curveSteps value)

/-- Reads a path, which may not hold the null character. -/
def readPath (slot : Slot) (value : String) : Except UsageError Files.Path :=
  let path := Files.Path.ofString value
  if path.hasNull then .error (.badValue slot value) else .ok path

/-- The options with one more setting. -/
def Options.set (o : Options) (slot : Slot) (value : String) : Except UsageError Options :=
  match slot with
  | .output => (readPath slot value).map fun path => { o with output? := some path }
  | .profile => .ok { o with profile := value }
  | .font => .ok { o with font? := some value }
  | .fontPath => (readPath slot value).map fun path => { o with fontPath? := some path }
  | .fontDir => (readPath slot value).map fun path => { o with fontDir := path }
  | .fontSize => (readSize slot value).map fun x => { o with fontSize? := some x }
  | .marginX => (readNumber slot value).map fun x => { o with marginX? := some x }
  | .marginY => (readNumber slot value).map fun x => { o with marginY? := some x }
  | .lineHeight => (readSize slot value).map fun x => { o with lineHeight? := some x }
  | .letterSpacing => (readNumber slot value).map fun x => { o with letterSpacing? := some x }
  | .curveSteps => (readSteps value).map fun n => { o with curveSteps? := some n }
  | .template => .ok { o with template? := some value }
  | .field => .ok { o with fields := o.fields ++ [value] }
  | .logFile => (readPath slot value).map fun path => { o with logFile? := some path }
  | .logLevel => .ok { o with logLevel := value }

/-- The options after one more token. -/
def Options.take (o : Options) : Token → Except UsageError Options
  | .set slot value => o.set slot value
  | .on .closeContours => .ok { o with closeContours? := some true }
  | .on .keepContoursOpen => .ok { o with closeContours? := some false }
  | .on .quiet => .ok { o with quiet := true }
  | .on _ => .ok o
  | .positional value =>
    match o.text? with
    | none => .ok { o with text? := some value }
    | some _ => .error (.extraArgument value)

/-! ## What is asked for -/

/-- What the arguments ask for. -/
inductive Demand where
  | plot (options : Options)
  | version
  | help

/-- Whether a token sets an option. -/
def Token.sets (slot : Slot) : Token → Bool
  | .set other _ => other == slot
  | _ => false

/-- The tokens without the settings that a later one replaces. Fields of a
template add up. -/
def withoutReplaced : List Token → List Token
  | [] => []
  | .set slot value :: rest =>
    if slot ≠ .field ∧ rest.any (Token.sets slot) then withoutReplaced rest
    else .set slot value :: withoutReplaced rest
  | t :: rest => t :: withoutReplaced rest

/-- What arguments ask for. The version and the help text are asked for before
any value is looked at, but not before all options are understood. -/
def demand (args : List String) : Except UsageError Demand := do
  let ts ← tokens args
  match ts.find? fun t => t == .on .version || t == .on .help with
  | some (.on .version) => pure .version
  | some _ => pure .help
  | none => .plot <$> (withoutReplaced ts).foldlM Options.take {}

end PenPlot.CommandLine
