-- How a text is set on the console: tabs are filled up to the next stop, and a
-- line that is wider than the console is continued on the next one, between two
-- words where that is possible. Each character that is set knows its place in the
-- text, so that what is said about a stretch of the text can be followed there.
import PenPlot.Console.Width
import PenPlot.Text.Lines

namespace PenPlot.Console

/-! ## Places -/

/-- A character as it is set, and the place in the text of the one that it is set
for. -/
structure Placed where
  char : Char
  place : Nat
  deriving DecidableEq, Repr

/-- The characters of a text with their places. -/
def placed (cs : List Char) : List Placed := cs.zipIdx.map fun c => ⟨c.1, c.2⟩

/-- The characters without their places. -/
def chars (line : List Placed) : List Char := line.map Placed.char

/-- Whether a character is blank. -/
def Placed.isBlank (p : Placed) : Bool := Text.isBlank p.char

/-- A space in the place of a character. -/
def Placed.asSpace (p : Placed) : Placed := ⟨' ', p.place⟩

/-- Placing characters keeps them. -/
theorem chars_placed (cs : List Char) : chars (placed cs) = cs := by
  simp [chars, placed, Function.comp_def]

/-- The lines of a text, without the line feeds between them. -/
def linesOf : List Placed → List (List Placed)
  | [] => [[]]
  | p :: rest =>
    match linesOf rest with
    | line :: lines => if p.char = '\n' then [] :: line :: lines else (p :: line) :: lines
    | [] => [[p]]

/-! ## Tabs -/

/-- The distance between two tab stops in cells. -/
def tabWidth : Nat := 8

/-- The cells that are missing from a position to the next tab stop. -/
def missingToStop (position : Nat) : Nat := (tabWidth - position % tabWidth) % tabWidth

/-- A line with every tab as one space and as many more as are missing to the
next stop, where `part` holds the characters since the last tab, the latest first,
the first of which starts at `position`. -/
def fillTabs (position : Nat) (part : List Placed) : List Placed → List Placed
  | [] => part.reverse
  | p :: rest =>
    if p.char = '\t' then
      let here := position + textCells (chars (p.asSpace :: part).reverse)
      let missing := missingToStop here
      part.reverse ++ List.replicate (missing + 1) p.asSpace ++ fillTabs (here + missing) [] rest
    else fillTabs position (p :: part) rest

/-- After a tab the line stands at a stop. -/
theorem dvd_add_missingToStop (position : Nat) : tabWidth ∣ position + missingToStop position := by
  unfold missingToStop tabWidth
  omega

/-! ## Words -/

/-- Runs put together by twos, a word and the blanks after it. -/
def inTwos : List (List Placed) → List (List Placed)
  | word :: blanks :: rest => (word ++ blanks) :: inTwos rest
  | rest => rest

/-- The words of a line, each with the blanks after it, the first one also with
the blanks before it. A line of blanks has no words. -/
def wordsOf (line : List Placed) : List (List Placed) :=
  match line.splitBy fun p q => p.isBlank == q.isBlank with
  | [] => []
  | first :: rest =>
    if first.all Placed.isBlank then
      match inTwos rest with
      | [] => []
      | word :: more => (first ++ word) :: more
    else inTwos (first :: rest)

/-- Nothing is lost where runs are put together. -/
theorem flatten_inTwos (runs : List (List Placed)) : (inTwos runs).flatten = runs.flatten := by
  fun_induction inTwos runs <;> simp_all

/-- A word without the blanks after it. -/
def withoutTail (word : List Placed) : List Placed :=
  (word.reverse.dropWhile Placed.isBlank).reverse

/-! ## Lines -/

/-- The clusters of a line dealt out to lines of at most `width` cells, as far as
that is possible: the numbers of characters in each line. -/
def foldLengths (width : Nat) (length cells : Nat) : List Cluster → List Nat
  | [] => if cells = 0 then [] else [length]
  | c :: rest =>
    if width < cells + c.cells then length :: foldLengths width c.length c.cells rest
    else foldLengths width (length + c.length) (cells + c.cells) rest

/-- A line cut into pieces of the given lengths. -/
def cut : List Nat → List Placed → List (List Placed)
  | [], _ => []
  | n :: rest, line => line.take n :: cut rest (line.drop n)

/-- A word that is wider than a line, folded. -/
def folded (width : Nat) (word : List Placed) : List (List Placed) :=
  cut (foldLengths width 0 0 (clusters (chars word))) word

/-- Lines that are filled with words: those that are full, and the one that is
being filled with its width. -/
structure Filling where
  full : List (List Placed) := []
  line : List Placed := []
  cells : Nat := 0

/-- Adds a word to the lines. -/
def Filling.add (width : Nat) (f : Filling) (word : List Placed) : Filling :=
  let needed := textCells (chars (withoutTail word))
  if f.cells + needed ≤ width then
    { f with line := f.line ++ word, cells := f.cells + textCells (chars word) }
  else
    let full := if f.line = [] then f.full else f.full ++ [f.line]
    if width < needed then
      let pieces := folded width word
      let last := pieces.getLastD []
      ⟨full ++ pieces.dropLast, last, textCells (chars last)⟩
    else ⟨full, word, textCells (chars word)⟩

/-- A line broken into lines between its words, and within words that are too
wide for any line. -/
def broken (width : Nat) (line : List Placed) : List (List Placed) :=
  match wordsOf line with
  | [] => [line]
  | words =>
    let f := words.foldl (Filling.add width) {}
    f.full ++ [f.line]

/-- A line without so many of the blanks at its end as it has characters too
many. -/
def withoutExcess (width : Nat) (line : List Placed) : List Placed :=
  let blanks := (line.reverse.takeWhile Placed.isBlank).length
  line.take (line.length - min blanks (line.length - width))

/-- The number of characters of the clusters that fit into `width` cells, and the
cells that are left over. -/
def fitting (width : Nat) : List Cluster → Nat × Nat
  | [] => (0, width)
  | c :: rest =>
    if width < c.cells then (0, width)
    else
      let (length, left) := fitting (width - c.cells) rest
      (c.length + length, left)

/-- A line that is too wide and yet cannot be cut off, since its clusters taken
one by one are narrower than the width. -/
structure Uncut where
  line : List Char
  deriving DecidableEq, Repr

/-- A line cut off at a width, with a space in the place of half a character. -/
def cutOff (width : Nat) (line : List Placed) : Except Uncut (List Placed) :=
  if textCells (chars line) ≤ width then .ok line
  else if totalCells (clusters (chars line)) < width then .error ⟨chars line⟩
  else
    let (length, left) := fitting width (clusters (chars line))
    .ok (line.take length ++ ((line.drop length).take left).map Placed.asSpace)

/-- The number of cells of a line of the console. -/
def lineWidth : Nat := 5000

/-- The lines of the console for one line of a text. -/
def setLine (line : List Placed) : Except Uncut (List (List Placed)) :=
  (broken lineWidth (fillTabs 0 [] line)).mapM fun l => cutOff lineWidth (withoutExcess lineWidth l)

/-- Lines with a line feed between each two. -/
def joinLines : List (List Char) → List Char
  | [] => []
  | [line] => line
  | line :: rest => line ++ '\n' :: joinLines rest

/-- A text as it is set on the console: its lines, the number of characters that it
had, and whether it was taken apart. A text that was not stands on one line, as it
is but for what is missing at its end. -/
structure SetText where
  lines : List (List Placed)
  length : Nat
  isDivided : Bool
  deriving DecidableEq, Repr

/-- Sets a text. It is taken apart at line feeds and tabs, and where a line is
broken. -/
def setText (text : List Char) : Except Uncut SetText := do
  let lines := (← (linesOf (placed text)).mapM setLine).flatten
  pure ⟨lines, text.length, text.contains '\n' || text.contains '\t' || 1 < lines.length⟩

/-- The characters of a text that is set. -/
def SetText.shown (set : SetText) : List Char := joinLines (set.lines.map chars)

/-- Whether a stretch of the text from `start` to `stop` is left in it. A stretch
without characters is only left where the text was not taken apart. -/
def SetText.keeps (set : SetText) (start stop : Nat) : Bool :=
  if set.isDivided then
    set.lines.any fun line => line.any fun p => start ≤ p.place && p.place < stop
  else
    let left := set.lines.flatten.length
    start < left || left == set.length

end PenPlot.Console
