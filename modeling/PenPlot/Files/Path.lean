-- Paths as plain values: a root and a list of names. Reading a path drops the
-- empty names and the dots, so that two spellings of one path give one value;
-- the names `..` stay, since where they lead depends on the files.
import PenPlot.Text.Lines

namespace PenPlot.Files

/-- Where a path starts: at the working directory, at the root of the file
tree, or at the second root that exactly two slashes stand for. -/
inductive Root where
  | working
  | slash
  | doubleSlash
  deriving DecidableEq, Repr

/-- The slashes that are written for a root. -/
def Root.text : Root → List Char
  | .working => []
  | .slash => ['/']
  | .doubleSlash => ['/', '/']

/-- A path. -/
structure Path where
  root : Root
  names : List (List Char)
  deriving DecidableEq, Repr

/-- The root that a text starts with. -/
def Root.ofText : List Char → Root
  | '/' :: '/' :: '/' :: _ => .slash
  | '/' :: '/' :: _ => .doubleSlash
  | '/' :: _ => .slash
  | _ => .working

/-- The names of a text between its slashes, without empty ones and dots. -/
def namesOfText (cs : List Char) : List (List Char) :=
  (Text.splitAt '/' cs).filter fun name => name ≠ [] ∧ name ≠ ['.']

/-- Reads a path; every text is one. -/
def Path.ofString (s : String) : Path := ⟨Root.ofText s.toList, namesOfText s.toList⟩

/-- Names with a slash between each two. -/
def joinNames : List (List Char) → List Char
  | [] => []
  | [name] => name
  | name :: rest => name ++ '/' :: joinNames rest

/-- The text of a path; the working directory itself is a dot. -/
def Path.toString (p : Path) : String :=
  match p.root, p.names with
  | .working, [] => "."
  | root, names => String.ofList (root.text ++ joinNames names)

/-- Whether a path holds the null character, which no file name may have. -/
def Path.hasNull (p : Path) : Bool := p.names.any fun name => name.contains '\x00'

/-- The path `q` seen from the directory `p`; a `q` that starts at a root of
its own replaces `p`. -/
def Path.join (p q : Path) : Path :=
  match q.root with
  | .working => ⟨p.root, p.names ++ q.names⟩
  | _ => q

end PenPlot.Files
