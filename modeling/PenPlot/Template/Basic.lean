-- Templates: texts with fields to fill in. A field is a word between braces;
-- all other characters, single braces among them, stand for themselves. A
-- template is filled in once: what a value brings in is not looked at again.
import PenPlot.Error
import PenPlot.Settings.Scalar
import PenPlot.Text.Lower
import PenPlot.Text.Word

namespace PenPlot

/-- A template: its label, the fields that have to be given, those that may be
given, and the text. -/
structure Template where
  label : String
  requiredFields : List String := []
  optionalFields : List String := []
  text : String
  deriving DecidableEq, Repr

namespace Template

/-! ## The pieces of a template -/

/-- A piece of a text: a character, or a field by its name. -/
inductive Piece where
  | literal (c : Char)
  | field (name : List Char)
  deriving DecidableEq, Repr

/-- The characters of a piece as they stand in the template. -/
def Piece.source : Piece → List Char
  | .literal c => [c]
  | .field name => '\x7b' :: (name ++ ['\x7d'])

/-- The field that starts after an opening brace, and what follows it. -/
def fieldAfterBrace? (cs : List Char) : Option (List Char × List Char) :=
  match cs.takeWhile Text.isWordChar, cs.dropWhile Text.isWordChar with
  | [], _ => none
  | name, '\x7d' :: rest => some (name, rest)
  | _, _ => none

/-- What follows a field is shorter than what follows its opening brace. -/
theorem length_of_fieldAfterBrace? {cs name rest : List Char}
    (h : fieldAfterBrace? cs = some (name, rest)) : rest.length < cs.length := by
  have hle := (List.dropWhile_sublist Text.isWordChar (l := cs)).length_le
  unfold fieldAfterBrace? at h
  generalize cs.takeWhile Text.isWordChar = front, cs.dropWhile Text.isWordChar = back at h hle
  split at h
  · simp at h
  · simp only [Option.some.injEq, Prod.mk.injEq] at h
    obtain ⟨_, rfl⟩ := h
    simp only [List.length_cons] at hle
    omega
  · simp at h

/-- The pieces of a text, from left to right. -/
def pieces : List Char → List Piece
  | [] => []
  | c :: rest =>
    if c = '\x7b' then
      match _found : fieldAfterBrace? rest with
      | some (name, after) => .field name :: pieces after
      | none => .literal c :: pieces rest
    else .literal c :: pieces rest
termination_by cs => cs.length
decreasing_by
  · have := length_of_fieldAfterBrace? _found
    simp only [List.length_cons]; omega
  · simp
  · simp

/-- The list without the elements that occurred before. -/
def distinct {α : Type} [BEq α] (xs : List α) : List α :=
  xs.foldl (fun seen x => if seen.contains x then seen else seen ++ [x]) []

/-- The name of a field. -/
def Piece.name? : Piece → Option String
  | .literal _ => none
  | .field name => some (String.ofList name)

/-- The names of the fields of a template in the order in which they first
occur. -/
def placeholders (t : Template) : List String :=
  distinct ((pieces t.text.toList).filterMap Piece.name?)

/-! ## Filling in -/

/-- Values for fields. Where a name occurs twice the last value counts. -/
abbrev Values := List (String × String)

/-- The value of a field without the blanks around it; nothing if it is blank. -/
def Values.find? (values : Values) (name : String) : Option String :=
  match (List.find? (fun v => v.1 == name) values.reverse).map fun v => Text.trimmed v.2 with
  | some "" | none => none
  | found => found

/-- What optional fields show where no value is given. -/
def samples : Values := [
  ("name", "John Doe"),
  ("username", "johndoe"),
  ("email", "john@example.com"),
  ("address", "123 Main St"),
  ("code", "123456"),
  ("body", "This is a sample message.")]

/-- What a piece shows: a field shows its value, or today's date where it is
the date, or its sample, or itself. -/
def Piece.fill (values : Values) (today : String) (p : Piece) : String :=
  match p.name? with
  | none => String.ofList p.source
  | some name =>
    match values.find? name with
    | some value => value
    | none =>
      if name = "date" then today else (samples.find? name).getD (String.ofList p.source)

/-- The required fields without a value. -/
def missing (t : Template) (values : Values) : List String :=
  t.requiredFields.filter fun name => (values.find? name).isNone

/-- Fills in a template. Every required field has to be given. -/
def render (t : Template) (values : Values) (today : String) : Except RequestFault String :=
  match t.missing values with
  | [] => .ok (String.join ((pieces t.text.toList).map (Piece.fill values today)))
  | names => .error (.fieldsMissing t.label names)

/-- Whether one of some fields is given something that is no text. -/
def givenNoText (given : List (String × Json)) (names : List String) : Bool :=
  names.any fun name => (Json.lookup? name given).any fun value => value.string?.isNone

/-- Why a template is not filled in. -/
inductive FillError where
  | request (fault : RequestFault)
  /-- A field that is looked at is given something that is no text. -/
  | notText
  deriving DecidableEq, Repr

/-- Fills in a template with values of any kind. The required fields are looked at
first, then those of the text. -/
def renderGiven (t : Template) (given : List (String × Json)) (today : String) :
    Except FillError String :=
  let values : Values := given.filterMap fun v => v.2.string?.map fun s => (v.1, s)
  if givenNoText given t.requiredFields then .error .notText
  else
    match t.missing values with
    | [] =>
      if givenNoText given t.placeholders then .error .notText
      else (t.render values today).mapError .request
    | names => .error (.request (.fieldsMissing t.label names))

/-! ## The templates there are -/

/-- Checks the fields of a template's description. -/
def check (fields : List (String × Json)) : Settings.Checked Template :=
  let text := Settings.scalar Settings.readText
  Template.mk
    <$> Settings.requiredField "label" text fields
    <*> Settings.optionalField "required_fields" [] (Settings.list text) fields
    <*> Settings.optionalField "optional_fields" [] (Settings.list text) fields
    <*> Settings.requiredField "template" text fields

/-- The template of a welcome card. -/
def chumba : Template where
  label := "Chumba"
  requiredFields := ["name", "email", "code"]
  optionalFields := ["username", "date"]
  text := "Hello \x7bname\x7d,\n\x7bbody\x7d\nYour code is: \x7bcode\x7d\nThank you!"

/-- The template of a card with a code. -/
def stake : Template where
  label := "Stake"
  requiredFields := ["name", "email", "username", "code"]
  optionalFields := ["date"]
  text := "Hi \x7busername\x7d,\n\x7bbody\x7d\nYour Stake code: \x7bcode\x7d\nEnjoy!"

/-- The templates that are built in, in the order of their names. -/
def builtin : List (String × Template) := [("chumba", chumba), ("stake", stake)]

/-- The built-in template with a name, in letters of either case. -/
def named? (name : String) : Except RequestFault Template :=
  match builtin.find? fun t => t.1 == Text.lowered name with
  | some t => .ok t.2
  | none => .error (.unknownTemplate name (builtin.map Prod.fst))

end Template

end PenPlot
