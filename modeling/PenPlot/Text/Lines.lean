-- The lines of a text that are plotted. A text is split at line feeds alone;
-- each line loses its blanks at both ends, and a line of blanks is dropped, so
-- that it takes no room on the paper. Text that comes in from outside may end
-- its lines in other ways, and is brought to line feeds first.
import PenPlot.Text.Blank

namespace PenPlot.Text

/-- The pieces of a list between the occurrences of `sep`; one more than there
are occurrences. -/
def splitAt (sep : Char) : List Char → List (List Char)
  | [] => [[]]
  | c :: rest =>
    match splitAt sep rest with
    | piece :: pieces => if c = sep then [] :: piece :: pieces else (c :: piece) :: pieces
    | [] => [[c]]

/-- A split always has a first piece. -/
theorem splitAt_ne_nil (sep : Char) (cs : List Char) : splitAt sep cs ≠ [] := by
  cases cs with
  | nil => simp [splitAt]
  | cons c rest =>
    simp only [splitAt]
    split
    · split <;> simp
    · simp

/-- The text with each line end, a carriage return, a line feed or the two in
this order, written as one line feed. -/
def withLineFeeds : List Char → List Char
  | [] => []
  | '\r' :: '\n' :: rest => '\n' :: withLineFeeds rest
  | c :: rest => (if c = '\r' then '\n' else c) :: withLineFeeds rest

/-- The text with each carriage return and line feed written as a line feed alone. -/
def withPlainLineEnds : List Char → List Char
  | [] => []
  | '\r' :: '\n' :: rest => '\n' :: withPlainLineEnds rest
  | c :: rest => c :: withPlainLineEnds rest

/-- A text without carriage returns stays as it is. -/
theorem withPlainLineEnds_eq_self {cs : List Char} (h : '\r' ∉ cs) : withPlainLineEnds cs = cs := by
  fun_induction withPlainLineEnds cs <;> simp_all

/-- No carriage return is left. -/
theorem not_mem_withLineFeeds (cs : List Char) : '\r' ∉ withLineFeeds cs := by
  fun_induction withLineFeeds cs with
  | case1 => simp
  | case2 rest ih => simp [ih]
  | case3 c rest _ ih =>
    split
    · simp [ih]
    · next h => simp [ih, Ne.symm h]

/-- The lines that hold more than blanks, trimmed, in order. -/
def retainedLines (text : List Char) : List (List Char) :=
  ((splitAt '\n' text).map trim).filter (· ≠ [])

end PenPlot.Text
