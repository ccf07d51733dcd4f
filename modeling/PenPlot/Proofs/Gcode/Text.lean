-- The laws of the text of a program. If the commands keep the rules of the pen, the
-- last height before each move is the right one; and if they send the pen only to
-- where it is not, no position is printed twice in a row.
import Mathlib.Data.List.Chain
import PenPlot.Proofs.Gcode.Lines
import PenPlot.Proofs.Toolpath.Pen
import PenPlot.Proofs.Toolpath.Target

namespace PenPlot.Gcode

open Toolpath

variable {m : Settings.Machine}

/-! ## Heights -/

/-- The line that brings the pen to where it is. -/
def penLine (m : Settings.Machine) : Pen → String
  | .up => liftLine m
  | .down => lowerLine m

theorem lastHeight?_concat (lines : List (List Char)) (l : List Char) :
    lastHeight? (lines ++ [l]) = if isHeight l then some l else lastHeight? lines := by
  unfold lastHeight?
  rw [List.filter_append]
  by_cases hl : isHeight l = true
  · rw [if_pos hl, List.filter_cons_of_pos hl, List.filter_nil, List.getLast?_concat]
  · rw [if_neg hl, List.filter_cons_of_neg hl, List.filter_nil, List.append_nil]

theorem isHeight_commandLine (c : Command) :
    isHeight (commandLine m c).toList = c.target?.isNone := by
  cases c with
  | travel p =>
    rw [toList_travel]
    rfl
  | draw p =>
    rw [toList_draw]
    rfl
  | lift => exact isHeight_heightLine m _
  | lower => exact isHeight_heightLine m _

theorem lastHeight?_command {c : Command} {pen next : Pen} (hobey : pen.obey? c = some next)
    {lines : List (List Char)} (hlines : lastHeight? lines = some (penLine m pen).toList) :
    lastHeight? (lines ++ [(commandLine m c).toList]) = some (penLine m next).toList := by
  rw [lastHeight?_concat, isHeight_commandLine]
  cases pen <;> cases c <;> cases hobey
  · exact hlines
  · rfl
  · exact hlines
  · rfl

/-- After commands that keep the rules, the last height is the one where the pen is. -/
theorem lastHeight?_commands {commands : List Command} {pen final : Pen}
    (hobey : pen.obeyAll? commands = some final) {lines : List (List Char)}
    (hlines : lastHeight? lines = some (penLine m pen).toList) :
    lastHeight? (lines ++ commands.map fun c => (commandLine m c).toList) =
      some (penLine m final).toList := by
  induction commands generalizing pen lines with
  | nil =>
    cases hobey
    rw [List.map_nil, List.append_nil]
    exact hlines
  | cons c rest ih =>
    rw [Pen.obeyAll?_cons] at hobey
    obtain ⟨next, hc, hrest⟩ := Option.bind_eq_some_iff.mp hobey
    rw [List.map_cons, List.append_cons]
    exact ih hrest (lastHeight?_command hc hlines)

/-- The header leaves the pen up. -/
theorem lastHeight?_header :
    lastHeight? ((header m).map String.toList) = some (penLine m .up).toList := by
  have hlist : (header m).map String.toList =
      ["G21".toList, "G90".toList, (feed m).toList, (liftLine m).toList] ++
        [(liftLine m).toList] := rfl
  have hlift : isHeight (liftLine m).toList = true := isHeight_heightLine m _
  rw [hlist, lastHeight?_concat, if_pos hlift]
  rfl

/-! ## The lines of the three parts -/

theorem move?_header {line : List Char} (h : line ∈ (header m).map String.toList) :
    move? line = none := by
  unfold header at h
  simp only [List.map_cons, List.map_nil, List.mem_cons, List.not_mem_nil, or_false] at h
  rcases h with rfl | rfl | rfl | rfl | rfl
  · rfl
  · rfl
  · rw [toList_feed]
    rfl
  · exact move?_heightLine m _
  · exact move?_heightLine m _

theorem move?_footer {line : List Char} (h : line ∈ (footer m).map String.toList ++ [[]]) :
    move? line = none := by
  unfold footer at h
  simp only [List.map_cons, List.map_nil, List.mem_append, List.mem_cons, List.not_mem_nil,
    or_false] at h
  rcases h with (rfl | rfl | rfl) | rfl
  · exact move?_heightLine m _
  · rfl
  · rfl
  · rfl

/-- A line of two parts stands in the first of them or in the second. -/
theorem append_eq_line {α : Type} {a b before after : List α} {line : α}
    (h : a ++ b = before ++ line :: after) :
    (∃ t, a = before ++ line :: t) ∨ ∃ t, before = a ++ t ∧ b = t ++ line :: after := by
  rcases List.append_eq_append_iff.mp h with ⟨t, ht, hb⟩ | ⟨t, ht, hafter⟩
  · exact Or.inr ⟨t, ht, hb⟩
  · rcases List.cons_eq_append_iff.mp hafter with ⟨hnil, hb⟩ | ⟨u, hu, -⟩
    · refine Or.inr ⟨[], ?_, hb⟩
      rw [ht, hnil, List.append_nil, List.append_nil]
    · exact Or.inl ⟨u, ht.trans (congrArg (before ++ ·) hu)⟩

/-! ## The law of the heights -/

/-- The last height before a move is the one that the move needs. -/
theorem height_before_move {commands : List Command} {final : Pen}
    (hobey : Pen.up.obeyAll? commands = some final) {before after : List (List Char)}
    {line : List Char} {v : Move}
    (hline : textLines (emit m commands).text = before ++ line :: after)
    (hv : move? line = some v) :
    lastHeight? before = some (if v.draws then lowerLine m else liftLine m).toList := by
  rw [textLines_emit, List.append_assoc] at hline
  rcases append_eq_line hline with ⟨t, ht⟩ | ⟨t, hbefore, hbody⟩
  · have hmem : line ∈ (header m).map String.toList := by
      rw [ht]
      simp
    rw [move?_header hmem] at hv
    cases hv
  rcases append_eq_line hbody with ⟨u, hu⟩ | ⟨u, -, hfooter⟩
  · obtain ⟨first, others, hcommands, hfirst, hothers⟩ := List.map_eq_append_iff.mp hu
    obtain ⟨c, rest, rfl, hc, -⟩ := List.map_eq_cons_iff.mp hothers
    rw [hcommands, Pen.obeyAll?_append] at hobey
    obtain ⟨pen, hpen, hnext⟩ := Option.bind_eq_some_iff.mp hobey
    rw [Pen.obeyAll?_cons] at hnext
    obtain ⟨next, hobeys, -⟩ := Option.bind_eq_some_iff.mp hnext
    -- The pen before the command is the one that the last height shows.
    rw [hbefore, ← hfirst, lastHeight?_commands hpen lastHeight?_header]
    rw [← hc, move?_commandLine] at hv
    cases pen <;> cases c <;> cases hobeys <;> cases hv
    · rfl
    · rfl
  · have hmem : line ∈ (footer m).map String.toList ++ [[]] := by
      rw [hfooter]
      simp
    rw [move?_footer hmem] at hv
    cases hv

/-- The way home is the last line but one, and the last height before it is the lifted one. -/
theorem height_before_home (commands : List Command) :
    ∃ before, textLines (emit m commands).text =
        before ++ ["G90 G0 X0 Y0".toList, "M30".toList, []] ∧
      lastHeight? before = some (liftLine m).toList := by
  refine ⟨(header m).map String.toList ++ (commands.map fun c => (commandLine m c).toList) ++
    [(liftLine m).toList], ?_, ?_⟩
  · rw [textLines_emit, List.append_assoc _ [_]]
    rfl
  · have hlift : isHeight (liftLine m).toList = true := isHeight_heightLine m _
    rw [lastHeight?_concat, if_pos hlift]

/-! ## The law of the positions -/

/-- The moves of a program are those of its commands. -/
theorem moves_emit (commands : List Command) :
    movesOf (emit m commands).text = commands.filterMap (moveOf m) := by
  have hheader : ((header m).map String.toList).filterMap move? = [] :=
    List.filterMap_eq_nil_iff.mpr fun line => move?_header
  have hfooter : ((footer m).map String.toList ++ [[]]).filterMap move? = [] :=
    List.filterMap_eq_nil_iff.mpr fun line => move?_footer
  unfold movesOf
  rw [textLines_emit, List.filterMap_append, List.filterMap_append, hheader, hfooter,
    List.filterMap_map, List.nil_append, List.append_nil]
  exact congrArg (commands.filterMap ·) (funext fun c => move?_commandLine m c)

/-- The numbers that are printed for a position. -/
def printed (m : Settings.Machine) (p : Position) : Option ℚ × Option ℚ :=
  (Number.decimal? (Number.fixed m.coordinatePrecision.value p.x).toList,
    Number.decimal? (Number.fixed m.coordinatePrecision.value p.y).toList)

/-- What the moves of a program print are the targets of its commands. -/
theorem decimals_emit (commands : List Command) :
    (movesOf (emit m commands).text).map Move.decimals = (targets commands).map (printed m) := by
  unfold targets
  rw [moves_emit, List.map_filterMap, List.map_filterMap]
  congr 1
  funext c
  cases c <;> rfl

/-- Both coordinates are printed as numbers exactly when the position is finite. -/
theorem isSome_printed (p : Position) :
    ((printed m p).1.isSome && (printed m p).2.isSome) = p.isFinite := by
  unfold printed Geometry.Point.isFinite
  rw [Number.isSome_decimal?_fixed, Number.isSome_decimal?_fixed]

/-- Finite positions that are printed alike are the same place. -/
theorem same_of_printed {p q : Position} (hp : p.isFinite = true) (hq : q.isFinite = true)
    (h : printed m p = printed m q) : same m p q = true := by
  obtain ⟨hpx, hpy⟩ := isFinite_point_iff.mp hp
  obtain ⟨hqx, hqy⟩ := isFinite_point_iff.mp hq
  obtain ⟨hx, hy⟩ := Prod.mk.inj h
  exact same_iff.mpr
    ⟨Number.roundTo_equal_of_decimal hpx hqx hx, Number.roundTo_equal_of_decimal hpy hqy hy⟩

theorem printed_machineOrigin : printed m machineOrigin = (some 0, some 0) := by
  have hdecimal : Number.decimal? (Number.fixed m.coordinatePrecision.value 0).toList = some 0 := by
    rw [Number.decimal?_fixed Number.decode_zero, Number.Dyadic.units_zero rfl]
    simp [Number.withSign]
  exact Prod.ext hdecimal hdecimal

/-- Where the pen is only sent to finite positions where it is not, neighbours are printed
as different positions. -/
theorem isChain_printed {positions : List Position}
    (hfinite : ∀ p ∈ positions, p.isFinite = true)
    (hchain : positions.IsChain fun a b => same m b a = false) :
    (positions.map (printed m)).IsChain (· ≠ ·) := by
  rw [List.isChain_map]
  refine hchain.imp_of_mem_imp fun a b ha hb hapart hprinted => ?_
  have hsame := same_of_printed (hfinite b hb) (hfinite a ha) hprinted.symm
  rw [hsame] at hapart
  cases hapart

/-- All moves of a program print numbers exactly when all targets of its commands are finite. -/
theorem isDecimal_emit (commands : List Command) :
    (∀ v ∈ movesOf (emit m commands).text, v.isDecimal = true) ↔
      ∀ q ∈ targets commands, q.isFinite = true := by
  have hmoves : (∀ v ∈ movesOf (emit m commands).text, v.isDecimal = true) ↔
      ∀ d ∈ (movesOf (emit m commands).text).map Move.decimals,
        (d.1.isSome && d.2.isSome) = true := by
    rw [List.forall_mem_map]
    rfl
  rw [hmoves, decimals_emit, List.forall_mem_map]
  simp only [isSome_printed]

end PenPlot.Gcode
