-- Programs read back from their text, line by line: which lines move the pen to
-- a height, which move it over the paper, and what positions they print.
import Mathlib.Data.List.TakeWhile
import PenPlot.Gcode
import PenPlot.Proofs.Number.Decimal
import PenPlot.Proofs.Text.Lines

namespace PenPlot.Gcode

open Toolpath

/-! ## What a line says -/

/-- The lines of a text, in order; the piece after the last line feed is one of them. -/
def textLines (text : String) : List (List Char) := Text.splitAt '\n' text.toList

/-- What a line with a position says: whether the pen draws, and the texts of the position. -/
structure Move where
  draws : Bool
  x : List Char
  y : List Char
  deriving DecidableEq, Repr

/-- Reads the words of a position: what stands before the `Y`, and what stands between it and
the `F`. -/
def readMove (draws : Bool) (words : List Char) : Move :=
  ⟨draws, words.takeWhile (· != 'Y'),
    ((words.dropWhile (· != 'Y')).drop 1).takeWhile (· != 'F')⟩

/-- Reads a line as a move, if it is a `G0` or a `G1` with a position. -/
def move? : List Char → Option Move
  | 'G' :: '0' :: ' ' :: 'X' :: words => some (readMove false words)
  | 'G' :: '1' :: ' ' :: 'X' :: words => some (readMove true words)
  | _ => none

/-- Whether a line moves the pen to a height. -/
def isHeight (line : List Char) : Bool := "G1G90 Z".toList.isPrefixOf line

/-- The last line that moves the pen to a height. -/
def lastHeight? (lines : List (List Char)) : Option (List Char) :=
  (lines.filter isHeight).getLast?

/-- The moves of a program, in the order in which its text has them. -/
def movesOf (text : String) : List Move := (textLines text).filterMap move?

/-- The position that a move prints, where its texts are decimal numbers. -/
def Move.decimals (v : Move) : Option ℚ × Option ℚ := (Number.decimal? v.x, Number.decimal? v.y)

/-- Whether both texts of a move are decimal numbers. -/
def Move.isDecimal (v : Move) : Bool := v.decimals.1.isSome && v.decimals.2.isSome

/-! ## The characters of a line -/

theorem toList_feed (m : Settings.Machine) :
    (feed m).toList = 'F' :: Nat.toDigits 10 m.feedRate.value := by
  unfold feed
  simp

theorem toList_heightLine (m : Settings.Machine) (z : Float) :
    (heightLine m z).toList =
      "G1G90 Z".toList ++ ((Number.fixed 1 z).toList ++ (feed m).toList) := by
  unfold heightLine
  rw [String.toList_append, String.toList_append, List.append_assoc]

theorem toList_positionWords (m : Settings.Machine) (p : Position) :
    (positionWords m p).toList =
      'X' :: ((Number.fixed m.coordinatePrecision.value p.x).toList ++
        'Y' :: (Number.fixed m.coordinatePrecision.value p.y).toList) := by
  unfold positionWords
  rw [String.toList_append, String.toList_append, String.toList_append]
  simp

/-- A printed double holds no letter of a program, and no line feed. -/
theorem not_mem_fixed (places : Nat) (x : Float) {c : Char} (hc : c ∈ ['\n', 'F', 'Y']) :
    c ∉ (Number.fixed places x).toList := by
  have hother : c.isDigit = false ∧ c ∉ ['-', '.', 'n', 'a', 'i', 'f'] := by
    simp only [List.mem_cons, List.not_mem_nil, or_false] at hc
    rcases hc with rfl | rfl | rfl
    · exact ⟨by decide, by decide⟩
    · exact ⟨by decide, by decide⟩
    · exact ⟨by decide, by decide⟩
  obtain ⟨hdigit, hword⟩ := hother
  intro h
  rcases Number.mem_fixed h with hd | hw
  · rw [hdigit] at hd
    cases hd
  · exact hword hw

theorem not_mem_feed (m : Settings.Machine) : '\n' ∉ (feed m).toList := by
  rw [toList_feed]
  intro h
  rcases List.mem_cons.mp h with hf | hdigit
  · exact absurd hf (by decide)
  · exact absurd (Nat.isDigit_of_mem_toDigits (by decide) (by decide) hdigit) (by decide)

/-! ## The line of a command -/

/-- The texts of a position come back from the words that were written for it. -/
theorem readMove_position (m : Settings.Machine) (draws : Bool) (p : Position) :
    readMove draws ((Number.fixed m.coordinatePrecision.value p.x).toList ++
        'Y' :: ((Number.fixed m.coordinatePrecision.value p.y).toList ++ (feed m).toList)) =
      ⟨draws, (Number.fixed m.coordinatePrecision.value p.x).toList,
        (Number.fixed m.coordinatePrecision.value p.y).toList⟩ := by
  have hx : ∀ c ∈ (Number.fixed m.coordinatePrecision.value p.x).toList, (c != 'Y') = true := by
    intro c hc
    rw [bne_iff_ne]
    rintro rfl
    exact not_mem_fixed _ _ (by decide) hc
  have hy : ∀ c ∈ (Number.fixed m.coordinatePrecision.value p.y).toList, (c != 'F') = true := by
    intro c hc
    rw [bne_iff_ne]
    rintro rfl
    exact not_mem_fixed _ _ (by decide) hc
  unfold readMove
  rw [List.takeWhile_append_of_pos hx, List.dropWhile_append_of_pos hx, toList_feed]
  simp [List.takeWhile_append_of_pos hy]

theorem toList_travel (m : Settings.Machine) (p : Position) :
    (commandLine m (.travel p)).toList =
      'G' :: '0' :: ' ' :: 'X' :: ((Number.fixed m.coordinatePrecision.value p.x).toList ++
        'Y' :: ((Number.fixed m.coordinatePrecision.value p.y).toList ++ (feed m).toList)) := by
  change ("G0 " ++ positionWords m p ++ feed m).toList = _
  rw [String.toList_append, String.toList_append, toList_positionWords]
  simp

theorem toList_draw (m : Settings.Machine) (p : Position) :
    (commandLine m (.draw p)).toList =
      'G' :: '1' :: ' ' :: 'X' :: ((Number.fixed m.coordinatePrecision.value p.x).toList ++
        'Y' :: ((Number.fixed m.coordinatePrecision.value p.y).toList ++ (feed m).toList)) := by
  change ("G1 " ++ positionWords m p ++ feed m).toList = _
  rw [String.toList_append, String.toList_append, toList_positionWords]
  simp

/-- What the line of a command says. -/
def moveOf (m : Settings.Machine) : Command → Option Move
  | .travel p => some ⟨false, (Number.fixed m.coordinatePrecision.value p.x).toList,
      (Number.fixed m.coordinatePrecision.value p.y).toList⟩
  | .draw p => some ⟨true, (Number.fixed m.coordinatePrecision.value p.x).toList,
      (Number.fixed m.coordinatePrecision.value p.y).toList⟩
  | _ => none

theorem move?_heightLine (m : Settings.Machine) (z : Float) :
    move? (heightLine m z).toList = none := by
  rw [toList_heightLine]
  rfl

theorem isHeight_heightLine (m : Settings.Machine) (z : Float) :
    isHeight (heightLine m z).toList = true := by
  unfold isHeight
  rw [toList_heightLine, List.isPrefixOf_iff_prefix]
  exact List.prefix_append _ _

theorem move?_commandLine (m : Settings.Machine) (c : Command) :
    move? (commandLine m c).toList = moveOf m c := by
  cases c with
  | travel p =>
    rw [toList_travel]
    exact congrArg some (readMove_position m false p)
  | draw p =>
    rw [toList_draw]
    exact congrArg some (readMove_position m true p)
  | lift => exact move?_heightLine m _
  | lower => exact move?_heightLine m _

/-- No line of a command holds a line feed. -/
theorem not_mem_heightLine (m : Settings.Machine) (z : Float) :
    '\n' ∉ (heightLine m z).toList := by
  rw [toList_heightLine]
  simp [not_mem_feed, not_mem_fixed]

theorem not_mem_commandLine (m : Settings.Machine) (c : Command) :
    '\n' ∉ (commandLine m c).toList := by
  cases c with
  | travel p =>
    rw [toList_travel]
    simp [not_mem_feed, not_mem_fixed]
  | draw p =>
    rw [toList_draw]
    simp [not_mem_feed, not_mem_fixed]
  | lift => exact not_mem_heightLine m _
  | lower => exact not_mem_heightLine m _

/-! ## The lines of a program -/

theorem splitAt_line {line : List Char} (hline : '\n' ∉ line) (rest : List Char) :
    Text.splitAt '\n' (line ++ '\n' :: rest) = line :: Text.splitAt '\n' rest := by
  rw [Text.splitAt_eq_splitOn, Text.splitAt_eq_splitOn,
    List.splitOn_append_cons_self_of_not_mem hline]

/-- The lines of a text that ends each line with a line feed. -/
theorem splitAt_lines {lines : List String} (hlines : ∀ l ∈ lines, '\n' ∉ l.toList) :
    textLines (String.join (lines.map (· ++ "\n"))) = lines.map String.toList ++ [[]] := by
  unfold textLines
  induction lines with
  | nil => rfl
  | cons l rest ih =>
    have hl := hlines l List.mem_cons_self
    have hrest := ih fun k hk => hlines k (List.mem_cons_of_mem l hk)
    have hlist : (l ++ "\n").toList ++ (String.join (rest.map (· ++ "\n"))).toList =
        l.toList ++ '\n' :: (String.join (rest.map (· ++ "\n"))).toList := by
      rw [String.toList_append]
      simp
    rw [List.map_cons, String.join_cons, String.toList_append, hlist, splitAt_line hl, hrest]
    rfl

/-- The text of a program has the lines of its three parts, and an empty piece at the end. -/
theorem textLines_emit (m : Settings.Machine) (commands : List Command) :
    textLines (emit m commands).text =
      (header m).map String.toList ++ (commands.map fun c => (commandLine m c).toList) ++
        ((footer m).map String.toList ++ [[]]) := by
  have hlines : ∀ l ∈ (emit m commands).lines, '\n' ∉ l.toList := by
    intro l hl
    unfold Program.lines emit header footer at hl
    simp only [List.mem_append, List.mem_map, List.mem_cons, List.not_mem_nil, or_false] at hl
    rcases hl with ((rfl | rfl | rfl | rfl | rfl) | ⟨c, -, rfl⟩) | (rfl | rfl | rfl)
    · decide
    · decide
    · exact not_mem_feed m
    · exact not_mem_heightLine m _
    · exact not_mem_heightLine m _
    · exact not_mem_commandLine m c
    · exact not_mem_heightLine m _
    · decide
    · decide
  unfold Program.text
  rw [splitAt_lines hlines]
  unfold Program.lines emit
  simp

end PenPlot.Gcode
