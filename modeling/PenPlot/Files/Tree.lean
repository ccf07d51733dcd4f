-- File trees: what is known to stand on a disk. Each entry is known by its
-- place; the directories above an entry are there because the entry is.
-- Following a path takes one name after the other, and each name but the last
-- has to lead to a directory.
import PenPlot.Files.Path
import PenPlot.Text.Quoted

namespace PenPlot.Files

/-! ## Places -/

/-- A name within a directory. -/
abbrev Name := List Char

/-- The name that leads back to the directory above. -/
def parentName : Name := ['.', '.']

/-- A place: so many directories above the working directory or at the root of
the disk, and from there down along names. -/
structure Place where
  fromRoot : Bool
  up : Nat
  names : List Name
  deriving DecidableEq, Repr

/-- The directory that holds a place; the root of the disk holds itself. -/
def Place.parent (p : Place) : Place :=
  if p.names ≠ [] then { p with names := p.names.dropLast }
  else if p.fromRoot then p
  else { p with up := p.up + 1 }

/-- The place under a name. -/
def Place.child (p : Place) (name : Name) : Place := { p with names := p.names ++ [name] }

/-- The place where a path starts. -/
def Place.start (p : Path) : Place := ⟨p.root ≠ .working, 0, []⟩

/-- The place of a path that leads through existing directories only. -/
def Path.place (p : Path) : Place :=
  p.names.foldl (fun q name => if name = parentName then q.parent else q.child name) (.start p)

/-! ## Trees -/

/-- What stands at a place. -/
inductive Entry (α : Type) where
  | directory
  | file (content : α)
  deriving Repr

/-- What is known to stand on a disk. -/
structure Tree (α : Type) where
  entries : List (Place × Entry α)

variable {α : Type}

/-- Why a path leads nowhere. -/
inductive PathError where
  | notFound
  | notDirectory
  | isDirectory
  | nameTooLong
  deriving DecidableEq, Repr

/-- The wording of an error about a path. -/
def PathError.message (e : PathError) (path : String) : String :=
  let (number, text) :=
    match e with
    | .notFound => ("2", "No such file or directory")
    | .notDirectory => ("20", "Not a directory")
    | .isDirectory => ("21", "Is a directory")
    | .nameTooLong => ("36", "File name too long")
  "[Errno " ++ number ++ "] " ++ text ++ ": " ++ Text.quoted path

/-- Whether a place lies below another one. -/
def Place.isBelow (p q : Place) : Bool :=
  p.fromRoot == q.fromRoot && p.up == q.up && q.names.isPrefixOf p.names

/-- What stands at a place. -/
def Tree.at? (t : Tree α) (p : Place) : Option (Entry α) :=
  match t.entries.find? fun e => e.1 == p with
  | some e => some e.2
  | none => if p.names = [] ∨ t.entries.any (fun e => e.1.isBelow p) then some .directory else none

/-- The greatest number of bytes of a name. -/
def maxNameBytes : Nat := 255

/-- The place that a name leads to from a place. -/
def Tree.step (t : Tree α) (p : Place) (name : Name) : Except PathError Place :=
  match t.at? p with
  | none => .error .notFound
  | some (.file _) => .error .notDirectory
  | some .directory =>
    if name = parentName then .ok p.parent
    else if maxNameBytes < (String.ofList name).utf8ByteSize then .error .nameTooLong
    else .ok (p.child name)

/-- The greatest number of bytes of a path. -/
def maxPathBytes : Nat := 4095

/-- The place that a path leads to. It need not exist, but what holds it does. -/
def Tree.follow (t : Tree α) (p : Path) : Except PathError Place :=
  if maxPathBytes < p.toString.utf8ByteSize then .error .nameTooLong
  else p.names.foldlM t.step (.start p)

/-- What a path leads to. A path with the null character leads to nothing, whatever
else is wrong with it. -/
def Tree.look (t : Tree α) (p : Path) : Except PathError (Entry α) :=
  if p.hasNull then .error .notFound
  else
    match t.follow p with
    | .error e => .error e
    | .ok place =>
      match t.at? place with
      | some entry => .ok entry
      | none => .error .notFound

/-- The tree with an entry put at a place. -/
def Tree.put (t : Tree α) (p : Place) (entry : Entry α) : Tree α :=
  ⟨t.entries.filter (fun e => e.1 != p) ++ [(p, entry)]⟩

/-- The tree without what stands at a place and below it. The directory that held
it is still there. -/
def Tree.remove (t : Tree α) (p : Place) : Tree α :=
  let rest : Tree α := ⟨t.entries.filter fun e => !e.1.isBelow p⟩
  if (t.at? p).isNone ∨ p.parent.names = [] then rest else rest.put p.parent .directory

/-! ## Writing -/

/-- Opens a file and puts into it what `change` makes of what was in it. -/
def Tree.modify (t : Tree α) (p : Path) (change : Option α → α) : Except PathError (Tree α) :=
  match t.follow p with
  | .error e => .error e
  | .ok place =>
    match t.at? place with
    | some .directory => .error .isDirectory
    | some (.file content) => .ok (t.put place (.file (change (some content))))
    | none => .ok (t.put place (.file (change none)))

/-- Writes a file over whatever was in it. -/
def Tree.write (t : Tree α) (p : Path) (content : α) : Except PathError (Tree α) :=
  t.modify p fun _ => content

/-- The tree with the content of every file mapped. -/
def Tree.map {β : Type} (f : α → β) (t : Tree α) : Tree β :=
  ⟨t.entries.map fun e => (e.1, match e.2 with
    | .directory => .directory
    | .file content => .file (f content))⟩

/-- A path with each name `..` taken as a step back over the name before it,
whatever stands on the disk. -/
def Path.collapsed (p : Path) : Path :=
  let back (names : List Name) (name : Name) : List Name :=
    if name = parentName ∧ names ≠ [] ∧ names.getLast? ≠ some parentName then names.dropLast
    else names ++ [name]
  { p with names := p.names.foldl back [] }

end PenPlot.Files
