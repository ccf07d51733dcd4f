-- A layout as rows of characters. Each line of a text is a row of its own: it stands below the
-- rows before it, starts at the margin, and moves on by the steps of its own characters alone.
-- So two texts with a line feed between them are laid out as the one and, further down, the other.
import Mathlib.Algebra.BigOperators.Group.List.Basic
import Mathlib.Algebra.Ring.Rat
import PenPlot.Proofs.Layout.Place
import PenPlot.Proofs.Text.Blanks

namespace PenPlot.Layout

section Rows

variable {α : Type} [Add α] [Mul α]

/-! ## One line -/

/-- Where the pen is after characters, from `x` on. -/
def Spacing.after (s : Spacing α) (x : α) (cs : List (Char × α)) : α :=
  cs.foldl (fun x c => x + s.step c.2) x

theorem getElem?_placeLine (s : Spacing α) (y x : α) (cs : List (Char × α)) (k : Nat) :
    (placeLine s y x cs)[k]? =
      cs[k]?.map fun c => ⟨c.1, ⟨s.after x (cs.take k), y, s.scale⟩⟩ := by
  induction cs generalizing x k with
  | nil => rfl
  | cons c rest ih =>
    rw [placeLine]
    cases k with
    | zero => rfl
    | succ k =>
      rw [List.getElem?_cons_succ, List.getElem?_cons_succ, ih, List.take_succ_cons]
      rfl

variable [NatCast α]

/-! ## Rows -/

/-- The y of the line with a number. -/
def Spacing.height (s : Spacing α) (i : Nat) : α := s.marginY + (i : α) * s.lineHeight

/-- The placements of a line that has the number `i`: its characters in order, all of one size and
on one height, the first at the margin, and each of the others as far from the one before it as
that one moves the pen on. -/
structure IsRow (s : Spacing α) (i : Nat) (cs : List (Char × α)) (row : List (Placement α)) :
    Prop where
  chars : row.map Placement.char = cs.map Prod.fst
  scale : ∀ p ∈ row, p.frame.scale = s.scale
  height : ∀ p ∈ row, p.frame.originY = s.marginY + (i : α) * s.lineHeight
  start : ∀ p, row[0]? = some p → p.frame.originX = s.marginX
  next : ∀ k c p q, cs[k]? = some c → row[k]? = some p → row[k + 1]? = some q →
    q.frame.originX = p.frame.originX + (c.2 * s.scale * s.advanceScale + s.letterSpacing)

/-- The placements of lines, the first of which has the number `i`. -/
structure AreRows (s : Spacing α) (i : Nat) (lines : List (List (Char × α)))
    (rows : List (List (Placement α))) : Prop where
  length : rows.length = lines.length
  row : ∀ k cs row, lines[k]? = some cs → rows[k]? = some row → IsRow s (i + k) cs row

/-- The rows of lines, one placed after the other. -/
def rowsFrom (s : Spacing α) (i : Nat) (lines : List (List (Char × α))) :
    List (List (Placement α)) :=
  lines.mapIdx fun k cs => placeLine s (s.height (i + k)) s.marginX cs

/-- A character put on the line with a number, where it keeps its x. -/
def Placement.onLine (s : Spacing α) (i : Nat) (p : Placement α) : Placement α :=
  { p with frame := { p.frame with originY := s.height i } }

/-- Rows put on the lines from number `i` on, one row on each, where they keep their x. -/
def onLines (s : Spacing α) (i : Nat) (rows : List (List (Placement α))) : List (Placement α) :=
  (rows.mapIdx fun k row => row.map (Placement.onLine s (i + k))).flatten

/-! ## Placing is placing row by row -/

theorem placeFrom_eq (s : Spacing α) (i : Nat) (lines : List (List (Char × α))) :
    placeFrom s i lines = (rowsFrom s i lines).flatten := by
  induction lines generalizing i with
  | nil => rfl
  | cons cs rest ih =>
    rw [placeFrom, ih]
    unfold rowsFrom
    rw [List.mapIdx_cons, List.flatten_cons]
    simp only [Spacing.height, Nat.add_zero, Nat.add_assoc, Nat.add_comm 1]

theorem placeFrom_append (s : Spacing α) (i : Nat) (lines more : List (List (Char × α))) :
    placeFrom s i (lines ++ more) = placeFrom s i lines ++ placeFrom s (i + lines.length) more := by
  induction lines generalizing i with
  | nil => rfl
  | cons cs rest ih =>
    rw [List.cons_append, placeFrom, placeFrom, ih, List.append_assoc, List.length_cons,
      Nat.add_assoc, Nat.add_comm 1]

theorem isRow_placeLine (s : Spacing α) (i : Nat) (cs : List (Char × α)) :
    IsRow s i cs (placeLine s (s.height i) s.marginX cs) := by
  have hplace : ∀ {k : Nat} {p : Placement α},
      (placeLine s (s.height i) s.marginX cs)[k]? = some p → ∃ c, cs[k]? = some c ∧
        p = ⟨c.1, ⟨s.after s.marginX (cs.take k), s.height i, s.scale⟩⟩ := by
    intro k p hp
    rw [getElem?_placeLine] at hp
    obtain ⟨c, hc, hplaced⟩ := Option.map_eq_some_iff.mp hp
    exact ⟨c, hc, hplaced.symm⟩
  have hmem : ∀ p ∈ placeLine s (s.height i) s.marginX cs,
      p.frame.scale = s.scale ∧ p.frame.originY = s.height i := by
    intro p hp
    obtain ⟨k, hk⟩ := List.mem_iff_getElem?.mp hp
    obtain ⟨c, -, rfl⟩ := hplace hk
    exact ⟨rfl, rfl⟩
  refine ⟨map_char_placeLine s _ _ cs, fun p hp => (hmem p hp).1, fun p hp => (hmem p hp).2, ?_,
    ?_⟩
  · intro p hp
    obtain ⟨c, -, rfl⟩ := hplace hp
    rfl
  · intro k c p q hc hp hq
    obtain ⟨c', hc', rfl⟩ := hplace hp
    obtain ⟨-, -, rfl⟩ := hplace hq
    cases hc.symm.trans hc'
    simp only [Spacing.after, List.take_add_one, hc, Option.toList_some, List.foldl_append,
      List.foldl_cons, List.foldl_nil, Spacing.step]

theorem row_of_rowsFrom {s : Spacing α} {i k : Nat} {lines : List (List (Char × α))}
    {cs : List (Char × α)} {row : List (Placement α)} (hline : lines[k]? = some cs)
    (hrow : (rowsFrom s i lines)[k]? = some row) :
    row = placeLine s (s.height (i + k)) s.marginX cs := by
  unfold rowsFrom at hrow
  rw [List.getElem?_mapIdx, hline, Option.map_some, Option.some.injEq] at hrow
  exact hrow.symm

theorem areRows_rowsFrom (s : Spacing α) (i : Nat) (lines : List (List (Char × α))) :
    AreRows s i lines (rowsFrom s i lines) := by
  refine ⟨List.length_mapIdx, ?_⟩
  intro k cs row hline hrow
  rw [row_of_rowsFrom hline hrow]
  exact isRow_placeLine s (i + k) cs

/-- Rows hold the characters of their lines. -/
theorem AreRows.chars {s : Spacing α} {i : Nat} {lines : List (List (Char × α))}
    {rows : List (List (Placement α))} (h : AreRows s i lines rows) :
    rows.map (·.map Placement.char) = lines.map (·.map Prod.fst) := by
  refine List.ext_getElem (by simp [h.length]) fun k hrow hline => ?_
  rw [List.length_map] at hrow hline
  rw [List.getElem_map, List.getElem_map]
  exact (h.row k _ _ (List.getElem?_eq_getElem hline) (List.getElem?_eq_getElem hrow)).chars

/-- The same lines further down are the same rows further down. -/
theorem placeFrom_eq_onLines (s : Spacing α) (i j : Nat) (lines : List (List (Char × α))) :
    placeFrom s j lines = onLines s j (rowsFrom s i lines) := by
  have hline : ∀ (y z x : α) (cs : List (Char × α)), placeLine s z x cs =
      (placeLine s y x cs).map fun p => { p with frame := { p.frame with originY := z } } := by
    intro y z x cs
    induction cs generalizing x with
    | nil => rfl
    | cons c rest ih =>
      rw [placeLine, placeLine, List.map_cons, ih]
  rw [placeFrom_eq]
  unfold onLines rowsFrom
  rw [List.mapIdx_mapIdx]
  congr 2
  funext k cs
  exact hline _ _ _ cs

end Rows

/-! ## Exact distances -/

/-- Where sums are exact, the pen is moved on by the sum of the steps. -/
theorem Spacing.after_eq {α : Type} [Semiring α] (s : Spacing α) (x : α)
    (cs : List (Char × α)) : s.after x cs = x + (cs.map fun c => s.step c.2).sum := by
  induction cs generalizing x with
  | nil => simp [Spacing.after]
  | cons c rest ih =>
    rw [Spacing.after, List.foldl_cons, ← Spacing.after, ih, List.map_cons, List.sum_cons,
      add_assoc]

theorem originX_of_rowsFrom {α : Type} [Semiring α] (s : Spacing α) (i : Nat)
    {lines : List (List (Char × α))} {k j : Nat} {cs : List (Char × α)}
    {row : List (Placement α)} {p : Placement α} (hline : lines[k]? = some cs)
    (hrow : (rowsFrom s i lines)[k]? = some row) (hp : row[j]? = some p) :
    p.frame.originX = s.marginX + ((cs.take j).map fun c => s.step c.2).sum := by
  rw [row_of_rowsFrom hline hrow, getElem?_placeLine] at hp
  obtain ⟨c, -, rfl⟩ := Option.map_eq_some_iff.mp hp
  exact s.after_eq _ _

/-! ## Texts -/

section Texts

variable {style : Settings.Style} {metrics : Font.Metrics}
  {advance : Char → Except Font.Fault Float}

theorem scaleFor?_ok_iff {size scale : Float} : metrics.scaleFor? size = .ok scale ↔
    ∃ n, Number.ofInt? metrics.unitsPerEm = some n ∧ scale = size / n := by
  unfold Font.Metrics.scaleFor?
  cases Number.ofInt? metrics.unitsPerEm <;> simp [eq_comm]

/-- A text is laid out in the rows of its lines. -/
theorem layOut_rows {text : String} {placements : List (Placement Float)}
    (h : layOut text style metrics advance = .ok placements) : ∃ n lines,
      Number.ofInt? metrics.unitsPerEm = some n ∧
      measure advance (Text.retainedLines text.toList) = .ok lines ∧
      placements = placeFrom (spacing style (style.fontSize.value / n)) 0 lines := by
  obtain ⟨scale, lines, hscale, hlines, rfl⟩ := layOut_ok_iff.mp h
  obtain ⟨n, hn, rfl⟩ := scaleFor?_ok_iff.mp hscale
  exact ⟨n, lines, hn, hlines, rfl⟩

theorem measure_append {lines more : List (List Char)} {a b : List (List (Char × Float))}
    (ha : measure advance lines = .ok a) (hb : measure advance more = .ok b) :
    measure advance (lines ++ more) = .ok (a ++ b) := by
  unfold measure at *
  rw [List.mapM_append, ha, hb]
  rfl

theorem length_measure {lines : List (List Char)} {measured : List (List (Char × Float))}
    (h : measure advance lines = .ok measured) : measured.length = lines.length := by
  rw [← map_fst_measure h, List.length_map]

/-- The lines of two texts with a line feed between them are placed one after the other. -/
theorem layOut_append {a b : String} {n : Float} {first second : List (List (Char × Float))}
    (hn : Number.ofInt? metrics.unitsPerEm = some n)
    (ha : measure advance (Text.retainedLines a.toList) = .ok first)
    (hb : measure advance (Text.retainedLines b.toList) = .ok second) :
    layOut (a ++ "\n" ++ b) style metrics advance =
      .ok (placeFrom (spacing style (style.fontSize.value / n)) 0 first ++
        placeFrom (spacing style (style.fontSize.value / n))
          (Text.retainedLines a.toList).length second) := by
  have hlines : Text.retainedLines (a ++ "\n" ++ b).toList =
      Text.retainedLines a.toList ++ Text.retainedLines b.toList := by
    rw [String.toList_append, String.toList_append, List.append_assoc]
    exact Text.retainedLines_append a.toList b.toList
  refine layOut_ok_iff.mpr ⟨_, first ++ second, scaleFor?_ok_iff.mpr ⟨n, hn, rfl⟩, ?_, ?_⟩
  · rw [hlines]
    exact measure_append ha hb
  · rw [place, placeFrom_append, Nat.zero_add, length_measure ha]

end Texts

/-! ## The law -/

/-- The layout of a text puts its lines one below the other. There is a layout exactly when the
grid of the font can be counted and each character has an advance. Its characters are those of the
lines in order, and each line is a row of the size, the height and the steps that the style asks
for; where distances are exact, a character stands at the margin and the sum of the steps before it
in its own line. Two texts with a line feed between them are laid out as the first one, and after
it the rows of the second, each character at the x where it was, below the lines of the first. -/
theorem a_layout_puts_line_below_line (style : Settings.Style) (metrics : Font.Metrics)
    (advance : Char → Except Font.Fault Float) :
    (∀ text, (∃ placements, layOut text style metrics advance = .ok placements) ↔
      (∃ n, Number.ofInt? metrics.unitsPerEm = some n) ∧
        ∀ line ∈ Text.retainedLines text.toList, ∀ c ∈ line, ∃ width, advance c = .ok width) ∧
    (∀ text placements, layOut text style metrics advance = .ok placements →
      placements.map Placement.char = (Text.retainedLines text.toList).flatten ∧
      ∃ n lines rows, Number.ofInt? metrics.unitsPerEm = some n ∧
        measure advance (Text.retainedLines text.toList) = .ok lines ∧
        placements = rows.flatten ∧
        AreRows (spacing style (style.fontSize.value / n)) 0 lines rows) ∧
    (∀ (s : Spacing ℚ) lines, ∃ rows, place s lines = rows.flatten ∧ AreRows s 0 lines rows ∧
      ∀ (i k : Nat) (cs : List (Char × ℚ)) (row : List (Placement ℚ)) (p : Placement ℚ),
        lines[i]? = some cs → rows[i]? = some row → row[k]? = some p →
          p.frame.originX = s.marginX + ((cs.take k).map fun c =>
            c.2 * s.scale * s.advanceScale + s.letterSpacing).sum) ∧
    ∀ a b first second, layOut a style metrics advance = .ok first →
      layOut b style metrics advance = .ok second →
      ∃ n rows, Number.ofInt? metrics.unitsPerEm = some n ∧
        rows.map (·.map Placement.char) = Text.retainedLines b.toList ∧
        second = onLines (spacing style (style.fontSize.value / n)) 0 rows ∧
        layOut (a ++ "\n" ++ b) style metrics advance =
          .ok (first ++ onLines (spacing style (style.fontSize.value / n))
            (Text.retainedLines a.toList).length rows) := by
  refine ⟨fun text => ?_, fun text placements h => ⟨map_char_layOut h, ?_⟩, fun s lines => ?_,
    fun a b first second ha hb => ?_⟩
  · rw [isOk_layOut_iff, isOk_scaleFor?_iff]
  · obtain ⟨n, lines, hn, hlines, rfl⟩ := layOut_rows h
    exact ⟨n, lines, _, hn, hlines, placeFrom_eq _ 0 lines, areRows_rowsFrom _ 0 lines⟩
  · refine ⟨rowsFrom s 0 lines, placeFrom_eq s 0 lines, areRows_rowsFrom s 0 lines, ?_⟩
    intro i k cs row p hline hrow hp
    exact originX_of_rowsFrom s 0 hline hrow hp
  · obtain ⟨n, lines, hn, hlines, rfl⟩ := layOut_rows ha
    obtain ⟨n', more, hn', hmore, rfl⟩ := layOut_rows hb
    cases hn.symm.trans hn'
    refine ⟨n, rowsFrom _ 0 more, hn, ?_, placeFrom_eq_onLines _ 0 0 more, ?_⟩
    · rw [(areRows_rowsFrom _ 0 more).chars, map_fst_measure hmore]
    · rw [layOut_append hn hlines hmore, ← placeFrom_eq_onLines]

/-- The blank line between the two takes no place, and neither do the blanks at the edges. -/
theorem a_line_is_put_below_two :
    let advance : Char → Except Font.Fault Float := fun c => .ok (if c = 'i' then 2.5 else 4)
    let metrics : Font.Metrics := ⟨8, by decide⟩
    let distances := spacing .standard 1
    ∃ first second rows, layOut "in\n\n n" .standard metrics advance = .ok first ∧
      layOut " i" .standard metrics advance = .ok second ∧
      first.map Placement.char = ['i', 'n', 'n'] ∧
      rows.map (·.map Placement.char) = [['i']] ∧
      second = onLines distances 0 rows ∧
      layOut ("in\n\n n" ++ "\n" ++ " i") .standard metrics advance =
        .ok (first ++ onLines distances 2 rows) := by
  intro advance metrics distances
  have hlaw := a_layout_puts_line_below_line .standard metrics advance
  have hgrid : Number.ofInt? metrics.unitsPerEm = some 8 := by decide +kernel
  have hlaidOut : ∀ text, ∃ placements, layOut text .standard metrics advance = .ok placements :=
    fun text => (hlaw.1 text).mpr ⟨⟨8, hgrid⟩, fun _ _ c _ => ⟨_, rfl⟩⟩
  obtain ⟨first, hfirst⟩ := hlaidOut "in\n\n n"
  obtain ⟨second, hsecond⟩ := hlaidOut " i"
  obtain ⟨n, rows, hn, hchars, hrows, hboth⟩ := hlaw.2.2.2 _ _ _ _ hfirst hsecond
  cases hgrid.symm.trans hn
  have hsize : Settings.Style.standard.fontSize.value / 8 = 1 := by decide +kernel
  rw [hsize] at hrows hboth
  refine ⟨first, second, rows, hfirst, hsecond, ?_, ?_, hrows, hboth⟩
  · rw [(hlaw.2.1 _ _ hfirst).1]
    decide +kernel
  · rw [hchars]
    decide +kernel

end PenPlot.Layout
