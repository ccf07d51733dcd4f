-- Upper case of names that are compared with ASCII names. It is enough to know
-- which characters of any script turn into ASCII letters.

namespace PenPlot.Text

/-- The characters beyond the ASCII range whose upper case is written in ASCII
letters: the dotless i, the long s, the sharp s and the ligatures. -/
def asciiCapitals : List (Char × String) := [
  ('\u00DF', "SS"), ('\u0131', "I"), ('\u017F', "S"), ('\uFB00', "FF"), ('\uFB01', "FI"),
  ('\uFB02', "FL"), ('\uFB03', "FFI"), ('\uFB04', "FFL"), ('\uFB05', "ST"), ('\uFB06', "ST")]

/-- The upper case of a character, exact if it is written in ASCII letters; any
other character stays as it is, and so stays different from every ASCII name. -/
def upperChar (c : Char) : List Char :=
  match asciiCapitals.lookup c with
  | some capitals => capitals.toList
  | none => [c.toUpper]

/-- A name in upper case, to be compared with ASCII names. -/
def upperAscii (s : String) : String := String.ofList (s.toList.flatMap upperChar)

end PenPlot.Text
