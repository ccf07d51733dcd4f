-- Names of styles. A style is described by words: attributes, a color, a color
-- behind the text, a link. Two descriptions of one style have one name, by which
-- a closing tag finds the tag that it closes.
import PenPlot.Console.Color
import PenPlot.Text.Blank

namespace PenPlot.Console

/-! ## Styles -/

/-- The attributes of a style in the order in which they are named, each with
the words for it. -/
def attributes : List (String × List String) := [
  ("bold", ["bold", "b"]), ("dim", ["dim", "d"]), ("italic", ["italic", "i"]),
  ("underline", ["underline", "u"]), ("blink", ["blink"]), ("blink2", ["blink2"]),
  ("reverse", ["reverse", "r"]), ("conceal", ["conceal", "c"]), ("strike", ["strike", "s"]),
  ("underline2", ["underline2", "uu"]), ("frame", ["frame"]), ("encircle", ["encircle"]),
  ("overline", ["overline", "o"])]

/-- The attribute that a word stands for. -/
def attribute? (word : List Char) : Option String :=
  (attributes.find? fun a => a.2.contains (String.ofList word)).map Prod.fst

/-- A style: the attributes that are set, each to on or off and the latest
setting first, the color, the color behind the text, and the link. -/
structure TextStyle where
  settings : List (String × Bool) := []
  color? : Option (List Char) := none
  ground? : Option (List Char) := none
  link? : Option (List Char) := none
  deriving DecidableEq, Repr

/-- The words of the name of a style. -/
def TextStyle.words (s : TextStyle) : List (List Char) :=
  let set := attributes.flatMap fun a =>
    match s.settings.lookup a.1 with
    | some true => [a.1.toList]
    | some false => ["not".toList, a.1.toList]
    | none => []
  let ground := match s.ground? with
    | some color => ["on".toList, color]
    | none => []
  let link := match s.link? with
    | some target => ["link".toList, target]
    | none => []
  set ++ s.color?.toList ++ ground ++ link

/-- The name of a style; a style without any setting is named so. -/
def TextStyle.name (s : TextStyle) : List Char :=
  match s.words with
  | [] => "none".toList
  | words => [' '].intercalate words

/-! ## Descriptions -/

/-- The words of a text between its blanks. -/
def betweenBlanks (cs : List Char) : List (List Char) :=
  (cs.splitOnP Text.isBlank).filter (· ≠ [])

/-- Reads the words of a description into a style. -/
def TextStyle.read (s : TextStyle) : List (List Char) → Except ColorFault TextStyle
  | [] => .ok s
  | word :: rest =>
    let lower := Text.lower word
    if lower = "on".toList then
      match rest with
      | [] => .error .unknown
      | ground :: rest =>
        match readColor ground with
        | .error fault => .error fault
        | .ok color => { s with ground? := some color }.read rest
    else if lower = "not".toList then
      match rest with
      | [] => .error .unknown
      | word :: rest =>
        match attribute? word with
        | some a => { s with settings := (a, false) :: s.settings }.read rest
        | none => .error .unknown
    else if lower = "link".toList then
      match rest with
      | [] => .error .unknown
      | target :: rest => { s with link? := some target }.read rest
    else
      match attribute? lower with
      | some a => { s with settings := (a, true) :: s.settings }.read rest
      | none =>
        match readColor lower with
        | .error fault => .error fault
        | .ok color => { s with color? := some color }.read rest

/-- The style that a text describes. -/
def TextStyle.ofText (cs : List Char) : Except ColorFault TextStyle := TextStyle.read {} (betweenBlanks cs)

/-- The name by which an opening tag and a closing tag are compared: that of the
style, and for a text that describes none the text itself in lower case. -/
def styleName (cs : List Char) : Except ComponentFault (List Char) :=
  match TextStyle.ofText cs with
  | .ok s => .ok s.name
  | .error .unknown => .ok (Text.lower (Text.trim cs))
  | .error (.component fault) => .error fault

end PenPlot.Console
