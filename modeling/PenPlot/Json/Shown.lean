-- How messages show a value: the words `None`, `True` and `False`, strings
-- between quotes, doubles in their shortest text, and lists and tables of such.
import PenPlot.Json.Basic
import PenPlot.Number.Significant
import PenPlot.Text.Quoted

namespace PenPlot.Json

mutual

/-- A value as it is shown. -/
def shown : Json → String
  | .null => "None"
  | .bool b => if b then "True" else "False"
  | .integer n => toString n
  | .real x => Number.shortest x
  | .str s => Text.quoted s
  | .arr items => "[" ++ shownItems items ++ "]"
  | .obj fields => "\x7b" ++ shownFields fields ++ "\x7d"

/-- Items with commas between them. -/
def shownItems : List Json → String
  | [] => ""
  | [item] => shown item
  | item :: rest => shown item ++ ", " ++ shownItems rest

/-- Fields with commas between them. -/
def shownFields : List (String × Json) → String
  | [] => ""
  | [(name, value)] => Text.quoted name ++ ": " ++ shown value
  | (name, value) :: rest => Text.quoted name ++ ": " ++ shown value ++ ", " ++ shownFields rest

end

/-- A value as it stands within a sentence: a string is put there as it is. -/
def inSentence : Json → String
  | .str s => s
  | value => value.shown

/-- Whether a value counts as true: all do but null, false, nought, and what is
empty. -/
def countsAsTrue : Json → Bool
  | .null => false
  | .bool b => b
  | .integer n => n != 0
  | .real x => x != 0
  | .str s => s != ""
  | .arr items => !items.isEmpty
  | .obj fields => !fields.isEmpty

end PenPlot.Json
