-- Writing JSON text on one line, in ASCII: a character beyond that range is
-- written as its UTF-16 units. Log records are written this way.
import PenPlot.Json.Basic
import PenPlot.Number.Significant
import PenPlot.Text.Quoted

namespace PenPlot.Json

/-- A UTF-16 unit as an escape. -/
def writeUnit (n : Nat) : String := "\\u" ++ String.ofList (Text.hex 4 n)

/-- A character inside a string. -/
def writeChar (c : Char) : String :=
  if c = '"' then "\\\""
  else if c = '\\' then "\\\\"
  else if c = '\n' then "\\n"
  else if c = '\r' then "\\r"
  else if c = '\t' then "\\t"
  else if c = '\x08' then "\\b"
  else if c = '\x0c' then "\\f"
  else if 0x20 ≤ c.toNat ∧ c.toNat < 0x7F then String.singleton c
  else if c.toNat < 0x10000 then writeUnit c.toNat
  else
    let n := c.toNat - 0x10000
    writeUnit (0xD800 + n / 0x400) ++ writeUnit (0xDC00 + n % 0x400)

/-- A string between quotes. -/
def writeString (s : String) : String :=
  s.toList.foldl (fun text c => text ++ writeChar c) "\"" ++ "\""

/-- A double: the shortest text, or the words for what is not finite. -/
def writeReal (x : Float) : String :=
  match Number.decode x with
  | .nan => "NaN"
  | .infinite negative => if negative then "-Infinity" else "Infinity"
  | .finite _ => Number.shortest x

mutual

/-- The text of a value. -/
def write : Json → String
  | .null => "null"
  | .bool b => if b then "true" else "false"
  | .integer n => toString n
  | .real x => writeReal x
  | .str s => writeString s
  | .arr items => "[" ++ writeItems items ++ "]"
  | .obj fields => "\x7b" ++ writeFields fields ++ "\x7d"

/-- Items with commas between them. -/
def writeItems : List Json → String
  | [] => ""
  | [item] => write item
  | item :: rest => write item ++ ", " ++ writeItems rest

/-- Fields with commas between them. -/
def writeFields : List (String × Json) → String
  | [] => ""
  | [(name, value)] => writeString name ++ ": " ++ write value
  | (name, value) :: rest => writeString name ++ ": " ++ write value ++ ", " ++ writeFields rest

end

end PenPlot.Json
