-- JSON values. Settings, font descriptions and log records are made of them.
-- A number written without point and exponent is a whole number of any size,
-- every other number is a double; an object keeps the order of its fields.

namespace PenPlot

/-- A JSON value. -/
inductive Json where
  | null
  | bool (value : Bool)
  | integer (value : Int)
  | real (value : Float)
  | str (value : String)
  | arr (items : List Json)
  | obj (fields : List (String × Json))
  deriving Inhabited, Repr

namespace Json

/-- The fields of an object; no other value has any. -/
def fields : Json → List (String × Json)
  | .obj fields => fields
  | _ => []

/-- The items of an array; no other value has any. -/
def items : Json → List Json
  | .arr items => items
  | _ => []

/-- The value of a field. Where a name occurs twice the last one counts. -/
def lookup? (name : String) (fields : List (String × Json)) : Option Json :=
  (fields.reverse.find? fun f => f.1 == name).map Prod.snd

/-- The value of a field of an object. -/
def get? (value : Json) (name : String) : Option Json := lookup? name value.fields

/-- The value of a field that is there and not null. -/
def given? (value : Json) (name : String) : Option Json :=
  match value.get? name with
  | some .null => none
  | found => found

/-- The text of a string value. -/
def string? : Json → Option String
  | .str s => some s
  | _ => none

/-- The whole number that a value is written as. -/
def integer? : Json → Option Int
  | .integer n => some n
  | _ => none

/-- Whether a value is `true`. -/
def isTrue : Json → Bool
  | .bool b => b
  | _ => false

/-- The fields with one of them replaced, or added at the end. -/
def setField (fields : List (String × Json)) (name : String) (value : Json) :
    List (String × Json) :=
  if fields.any (fun f => f.1 == name) then
    fields.map fun f => if f.1 == name then (name, value) else f
  else fields ++ [(name, value)]

end Json

end PenPlot
