-- What setting does to a text. Tabs become spaces, line feeds are put in, and blanks are lost or
-- become spaces where a line ends; all other characters are shown, in their order.
import PenPlot.Proofs.Console.Words
import PenPlot.Proofs.Layout.Place

namespace PenPlot.Console

/-! ## Tabs -/

/-- A text with some spaces in the place of each tab. -/
inductive Tabbed : List Char → List Char → Prop where
  | nil : Tabbed [] []
  | char {c : Char} {cs ds : List Char} (hc : c ≠ '\t') (h : Tabbed cs ds) :
      Tabbed (c :: cs) (c :: ds)
  | tab {cs ds : List Char} (n : Nat) (h : Tabbed cs ds) :
      Tabbed ('\t' :: cs) (List.replicate (n + 1) ' ' ++ ds)

variable {cs ds ss ts : List Char}

/-- A text without tabs stays as it is. -/
theorem Tabbed.eq_self (h : Tabbed cs ds) (htab : '\t' ∉ cs) : ds = cs := by
  induction h with
  | nil => rfl
  | char _ _ ih => rw [ih fun hmem => htab (List.mem_cons_of_mem _ hmem)]
  | tab => exact absurd List.mem_cons_self htab

theorem Tabbed.append (h : Tabbed cs ds) (h' : Tabbed ss ts) : Tabbed (cs ++ ss) (ds ++ ts) := by
  induction h with
  | nil => exact h'
  | char hc _ ih => exact .char hc ih
  | tab n _ ih => simpa only [List.cons_append, List.append_assoc] using .tab n ih

/-- Only tabs and spaces come and go. -/
theorem Tabbed.count_eq (h : Tabbed cs ds) {c : Char} (htab : c ≠ '\t') (hspace : c ≠ ' ') :
    ds.count c = cs.count c := by
  induction h with
  | nil => rfl
  | char _ _ ih => simp only [List.count_cons, ih]
  | tab n _ ih =>
    rw [List.count_append, List.count_replicate, if_neg (by simpa using Ne.symm hspace), ih,
      List.count_cons_of_ne (Ne.symm htab), Nat.zero_add]

theorem Tabbed.mem_iff (h : Tabbed cs ds) {c : Char} (htab : c ≠ '\t') (hspace : c ≠ ' ') :
    c ∈ ds ↔ c ∈ cs := by
  rw [← List.count_pos_iff, ← List.count_pos_iff, h.count_eq htab hspace]

theorem Tabbed.plain (h : Tabbed cs ds) (hplain : Plain cs) : Plain ds where
  noJoiner := (h.mem_iff (by decide) (by decide)).not.mpr hplain.noJoiner
  noSelector := (h.mem_iff (by decide) (by decide)).not.mpr hplain.noSelector

theorem exists_tabbed_fillTabs (position : Nat) (part line : List Placed) :
    ∃ ds, chars (fillTabs position part line) = (chars part).reverse ++ ds ∧
      Tabbed (chars line) ds := by
  induction line generalizing position part with
  | nil => exact ⟨[], by simp [fillTabs, chars], .nil⟩
  | cons p rest ih =>
    rw [fillTabs]
    split
    · rename_i htab
      simp only
      generalize position + textCells (chars (p.asSpace :: part).reverse) = here
      obtain ⟨ds, hds, htabbed⟩ := ih (here + missingToStop here) []
      refine ⟨List.replicate (missingToStop here + 1) ' ' ++ ds, ?_, ?_⟩
      · rw [chars_append, chars_append, hds]
        simp [chars, Placed.asSpace]
      · simpa only [chars_cons, htab] using .tab _ htabbed
    · rename_i htab
      obtain ⟨ds, hds, htabbed⟩ := ih position (p :: part)
      exact ⟨p.char :: ds, by rw [hds]; simp, .char htab htabbed⟩

/-- A line with its tabs filled up. -/
theorem tabbed_fillTabs (line : List Placed) :
    Tabbed (chars line) (chars (fillTabs 0 [] line)) := by
  obtain ⟨ds, hds, htabbed⟩ := exists_tabbed_fillTabs 0 [] line
  simpa [hds] using htabbed

/-! ## Wrapping -/

/-- Nothing but spaces up to the end of the line. -/
def AtEnd (cs : List Char) : Prop :=
  ∃ n rest, cs = List.replicate n ' ' ++ rest ∧ (rest = [] ∨ rest.head? = some '\n')

/-- A text that is broken into more lines. A blank at the end of a line may be lost, or become a
space. -/
inductive Wrapped : List Char → List Char → Prop where
  | nil : Wrapped [] []
  | char (c : Char) {cs ds : List Char} (h : Wrapped cs ds) : Wrapped (c :: cs) (c :: ds)
  | lineFeed {cs ds : List Char} (h : Wrapped cs ds) : Wrapped cs ('\n' :: ds)
  | lost {c : Char} {cs ds : List Char} (hblank : Text.isBlank c = true) (hc : c ≠ '\n')
      (hend : AtEnd ds) (h : Wrapped cs ds) : Wrapped (c :: cs) ds
  | space {c : Char} {cs ds : List Char} (hblank : Text.isBlank c = true) (hc : c ≠ '\n')
      (hend : AtEnd ds) (h : Wrapped cs ds) : Wrapped (c :: cs) (' ' :: ds)

theorem AtEnd.append (h : AtEnd ds) (hts : ts.head? = some '\n') : AtEnd (ds ++ ts) := by
  obtain ⟨n, rest, rfl, hrest⟩ := h
  refine ⟨n, rest ++ ts, List.append_assoc _ _ _, .inr ?_⟩
  rcases hrest with rfl | hrest
  · exact hts
  · rw [List.head?_append, hrest, Option.some_or]

/-- Wrapped texts may follow each other where the second one starts on a new line. -/
theorem Wrapped.append (h : Wrapped cs ds) (h' : Wrapped ss ts) (hts : ts.head? = some '\n') :
    Wrapped (cs ++ ss) (ds ++ ts) := by
  induction h with
  | nil => exact h'
  | char c _ ih => exact .char c ih
  | lineFeed _ ih => exact .lineFeed ih
  | lost hblank hc hend _ ih => exact .lost hblank hc (hend.append hts) ih
  | space hblank hc hend _ ih => exact .space hblank hc (hend.append hts) ih

theorem Wrapped.append_left (cs : List Char) (h : Wrapped ds ss) :
    Wrapped (cs ++ ds) (cs ++ ss) := by
  induction cs with
  | nil => exact h
  | cons c cs ih => exact .char c ih

/-- Of blanks at the end of a line some may be left as spaces. -/
theorem wrapped_blanks {n : Nat} (hcs : ∀ c ∈ cs, Text.isBlank c = true ∧ c ≠ '\n')
    (hn : n ≤ cs.length) : Wrapped cs (List.replicate n ' ') := by
  have hend (n : Nat) : AtEnd (List.replicate n ' ') := ⟨n, [], by simp, .inl rfl⟩
  induction cs generalizing n with
  | nil =>
    obtain rfl : n = 0 := by simpa using hn
    exact .nil
  | cons c cs ih =>
    obtain ⟨hc, hrest⟩ := List.forall_mem_cons.mp hcs
    cases n with
    | zero => exact .lost hc.1 hc.2 (hend 0) (ih hrest (Nat.zero_le _))
    | succ n => exact .space hc.1 hc.2 (hend n) (ih hrest (by simpa using hn))

/-- What is left of a text without its blanks. -/
def ink (cs : List Char) : List Char := cs.filter (!Text.isBlank ·)

theorem ink_append (cs ds : List Char) : ink (cs ++ ds) = ink cs ++ ink ds := List.filter_append ..

theorem ink_cons_of_isBlank {c : Char} (h : Text.isBlank c = true) (cs : List Char) :
    ink (c :: cs) = ink cs := by
  simp [ink, h]

theorem ink_cons_congr {cs ds : List Char} (h : ink cs = ink ds) (c : Char) :
    ink (c :: cs) = ink (c :: ds) := by
  simp only [ink, List.filter_cons] at h ⊢
  rw [h]

/-- Filling up tabs changes blanks alone. -/
theorem Tabbed.ink_eq (h : Tabbed cs ds) : ink ds = ink cs := by
  induction h with
  | nil => rfl
  | char _ _ ih => exact ink_cons_congr ih _
  | tab n _ ih =>
    have hspaces : ink (List.replicate (n + 1) ' ') = [] := by
      rw [ink, List.filter_replicate_of_neg (by decide)]
    rw [ink_append, hspaces, ih, List.nil_append, ink_cons_of_isBlank (by decide)]

/-- Wrapping changes blanks alone. -/
theorem Wrapped.ink_eq (h : Wrapped cs ds) : ink ds = ink cs := by
  induction h with
  | nil => rfl
  | char c _ ih => exact ink_cons_congr ih c
  | lineFeed _ ih => rw [ink_cons_of_isBlank (by decide), ih]
  | lost hblank _ _ _ ih => rw [ink_cons_of_isBlank hblank, ih]
  | space hblank _ _ _ ih =>
    rw [ink_cons_of_isBlank (by decide), ink_cons_of_isBlank hblank, ih]

/-! ## Cutting off -/

variable {line : List Placed} {width : Nat}

/-- A line is what it is without its excess, and blanks. -/
theorem exists_withoutExcess (width : Nat) (line : List Placed) :
    ∃ lost, line = withoutExcess width line ++ lost ∧ ∀ p ∈ lost, p.isBlank = true := by
  refine ⟨_, (List.take_append_drop _ line).symm, fun p hp => ?_⟩
  have hline := withoutTail_append line
  generalize htail : line.reverse.takeWhile Placed.isBlank = tail at hline hp
  have hlength := congrArg List.length hline
  simp only [List.length_append, List.length_reverse] at hlength
  -- What is dropped is no longer than the tail of blanks.
  conv at hp => rw [← hline]; arg 1
  rw [List.drop_append, List.drop_eq_nil_of_le (by simp; omega), List.nil_append] at hp
  have hmem := List.mem_reverse.mp (List.mem_of_mem_drop hp)
  rw [← htail] at hmem
  exact List.all_eq_true.mp List.all_takeWhile p hmem

/-- A line with blanks at its end, of which some are left as spaces. -/
theorem wrapped_of_blanks {kept blanks : List Placed} {n : Nat}
    (hblanks : ∀ p ∈ blanks, p.isBlank = true)
    (hfeed : '\n' ∉ chars (kept ++ blanks)) (hn : n ≤ blanks.length) :
    Wrapped (chars (kept ++ blanks)) (chars kept ++ List.replicate n ' ') := by
  rw [chars_append] at hfeed ⊢
  refine .append_left _ (wrapped_blanks ?_ (by simpa [chars] using hn))
  intro c hc
  refine ⟨?_, fun h => hfeed (h ▸ List.mem_append_right _ hc)⟩
  obtain ⟨p, hp, rfl⟩ := List.mem_map.mp hc
  exact hblanks p hp

/-- What is set of a line: all of it, but for blanks at its end. -/
def SetAs (width : Nat) (line : List Placed) : Prop :=
  ∃ shown, cutOff width (withoutExcess width line) = .ok shown ∧ Wrapped (chars line) (chars shown)

theorem setAs_of_withoutExcess_le (h : textCells (chars (withoutExcess width line)) ≤ width)
    (hfeed : '\n' ∉ chars line) : SetAs width line := by
  obtain ⟨lost, hline, hlost⟩ := exists_withoutExcess width line
  refine ⟨withoutExcess width line, by rw [cutOff, if_pos h], ?_⟩
  have hwrapped := @wrapped_of_blanks _ lost 0 hlost (hline ▸ hfeed) (Nat.zero_le _)
  rw [← hline] at hwrapped
  simpa using hwrapped

theorem setAs_of_textCells_le (h : textCells (chars line) ≤ width) (hfeed : '\n' ∉ chars line) :
    SetAs width line := by
  obtain ⟨lost, hline, -⟩ := exists_withoutExcess width line
  refine setAs_of_withoutExcess_le (le_trans ?_ h) hfeed
  conv_rhs => rw [hline, chars_append]
  exact textCells_le_append _ _

/-- A line is wrapped where it is cut off within the blanks at its end, and some of the blanks are
left as spaces. -/
theorem wrapped_cut {body more lost : List Placed} {length left : Nat}
    (hline : line = body ++ more ++ lost) (hblanks : ∀ p ∈ more ++ lost, p.isBlank = true)
    (hfeed : '\n' ∉ chars line) (hlength : body.length ≤ length) :
    Wrapped (chars line) (chars ((body ++ more).take length ++
      (((body ++ more).drop length).take left).map Placed.asSpace)) := by
  have hdropped : (body ++ more).drop length = more.drop (length - body.length) := by
    rw [List.drop_append, List.drop_eq_nil_of_le hlength, List.nil_append]
  have hblank : ∀ p ∈ (body ++ more).drop length ++ lost, p.isBlank = true := by
    intro p hp
    rw [hdropped] at hp
    rcases List.mem_append.mp hp with hp | hp
    · exact hblanks p (List.mem_append_left _ (List.mem_of_mem_drop hp))
    · exact hblanks p (List.mem_append_right _ hp)
  have hwhole : line = (body ++ more).take length ++ ((body ++ more).drop length ++ lost) := by
    rw [← List.append_assoc, List.take_append_drop]
    exact hline
  rw [chars_append, chars_map_asSpace]
  conv_lhs => rw [hwhole]
  refine wrapped_of_blanks hblank (hwhole ▸ hfeed) ?_
  simp only [List.length_take, List.length_append]
  omega

theorem Narrow.setAs (h : Narrow width line) (hplain : Plain (chars line))
    (hfeed : '\n' ∉ chars line) : SetAs width line := by
  by_cases hle : textCells (chars (withoutExcess width line)) ≤ width
  · exact setAs_of_withoutExcess_le hle hfeed
  · obtain ⟨lost, hline, hlost⟩ := exists_withoutExcess width line
    obtain ⟨body, blanks, hbody, hblanks, hfits⟩ := h
    generalize hkept : withoutExcess width line = kept at hline hle
    have hplainKept : Plain (chars kept) := hplain.of_subset <| by
      rw [hline, chars_append]
      exact List.subset_append_left _ _
    have hwide : width < sumCells (chars kept) := by
      rw [hplainKept.textCells_eq] at hle
      omega
    -- Since it is too wide, what is kept is more than the body.
    obtain ⟨more, rfl⟩ : body <+: kept := by
      rcases List.prefix_or_prefix_of_prefix ⟨blanks, hbody.symm⟩ ⟨lost, hline.symm⟩ with h | h
      · exact h
      · obtain ⟨more, rfl⟩ := h
        rw [Fits, chars_append, sumCells_append] at hfits
        omega
    have hmore : ∀ p ∈ more ++ lost, p.isBlank = true := by
      rw [hbody, List.append_assoc, List.append_right_inj] at hline
      exact hline ▸ hblanks
    have hcut := length_le_fitting (chars_append body more ▸ hplainKept) hfits
    rw [← chars_append] at hcut
    have htotal : ¬ totalCells (clusters (chars (body ++ more))) < width := by
      rw [hplainKept.totalCells_clusters]
      omega
    refine ⟨_, by rw [hkept, cutOff, if_neg hle, if_neg htotal], ?_⟩
    generalize fitting width (clusters (chars (body ++ more))) = cutAt at hcut ⊢
    exact wrapped_cut hline hmore hfeed (by simpa [chars] using hcut)

/-! ## Lines -/

theorem joinLines_cons (line : List Char) {lines : List (List Char)} (h : lines ≠ []) :
    joinLines (line :: lines) = line ++ '\n' :: joinLines lines := by
  cases lines with
  | nil => exact absurd rfl h
  | cons next more => rfl

theorem joinLines_append {lines more : List (List Char)} (hlines : lines ≠ []) (hmore : more ≠ []) :
    joinLines (lines ++ more) = joinLines lines ++ '\n' :: joinLines more := by
  induction lines with
  | nil => exact absurd rfl hlines
  | cons line lines ih =>
    by_cases hnil : lines = []
    · rw [hnil, List.singleton_append, joinLines_cons _ hmore]
      rfl
    · rw [List.cons_append, joinLines_cons _ (by simp [hnil]), ih hnil, joinLines_cons _ hnil]
      simp

theorem broken_ne_nil (width : Nat) (line : List Placed) : broken width line ≠ [] := by
  by_cases hwords : wordsOf line = []
  · simp [broken, hwords]
  · simp [broken_eq hwords, Filling.lines]

/-- Lines that are set one by one are the whole wrapped. -/
theorem wrapped_mapM {pieces : List (List Placed)} (hne : pieces ≠ [])
    (hpieces : ∀ piece ∈ pieces, SetAs width piece) :
    ∃ shown, pieces.mapM (fun l => cutOff width (withoutExcess width l)) = .ok shown ∧
      shown ≠ [] ∧ Wrapped (chars pieces.flatten) (joinLines (shown.map chars)) := by
  induction pieces with
  | nil => exact absurd rfl hne
  | cons piece pieces ih =>
    obtain ⟨⟨first, hfirst, hwrapped⟩, hpieces⟩ := List.forall_mem_cons.mp hpieces
    by_cases hnil : pieces = []
    · subst hnil
      refine ⟨[first], Layout.mapM_cons_ok.mpr ⟨first, [], hfirst, rfl, rfl⟩, by simp, ?_⟩
      simpa [joinLines] using hwrapped
    · obtain ⟨shown, hshown, hshownNe, hrest⟩ := ih hnil hpieces
      refine ⟨first :: shown, Layout.mapM_cons_ok.mpr ⟨first, shown, hfirst, hshown, rfl⟩,
        by simp, ?_⟩
      rw [List.map_cons, joinLines_cons _ (by simpa using hshownNe), List.flatten_cons,
        chars_append]
      exact hwrapped.append hrest.lineFeed rfl

/-- A line that is not too wide, or that is plain, is broken into lines that can be set, and
nothing of it is lost. -/
theorem setAs_broken (hwidth : 2 ≤ width)
    (h : textCells (chars line) ≤ width ∨ Plain (chars line)) (hfeed : '\n' ∉ chars line) :
    (broken width line).flatten = line ∧ ∀ piece ∈ broken width line, SetAs width piece := by
  have hwhole (hself : broken width line = [line]) (hset : SetAs width line) :
      (broken width line).flatten = line ∧ ∀ piece ∈ broken width line, SetAs width piece := by
    rw [hself]
    exact ⟨List.flatten_singleton, by simpa using hset⟩
  by_cases hle : textCells (chars line) ≤ width
  · exact hwhole (broken_eq_self hle) (setAs_of_textCells_le hle hfeed)
  · have hplain : Plain (chars line) := h.resolve_left hle
    by_cases hwords : wordsOf line = []
    · have hnarrow : Narrow width line :=
        ⟨[], line, rfl, isBlank_of_wordsOf_eq_nil hwords, Nat.zero_le _⟩
      exact hwhole (by simp [broken, hwords]) (hnarrow.setAs hplain hfeed)
    · obtain ⟨hflatten, hnarrow⟩ := broken_spec hwidth hplain hwords
      refine ⟨hflatten, fun piece hpiece => ?_⟩
      have hsublist := List.sublist_flatten_of_mem hpiece
      rw [hflatten] at hsublist
      have hsubset := (hsublist.map Placed.char).subset
      exact (hnarrow piece hpiece).setAs (hplain.of_subset hsubset) fun h => hfeed (hsubset h)

/-- A line that can be set: it is not too wide, or nothing in it joins or changes anything. -/
def Settable (line : List Placed) : Prop :=
  textCells (chars (fillTabs 0 [] line)) ≤ lineWidth ∨ Plain (chars line)

/-- Setting a line that can be set shows all of it but blanks. -/
theorem Settable.setLine (h : Settable line) (hfeed : '\n' ∉ chars line) :
    ∃ shown ds, setLine line = .ok shown ∧ shown ≠ [] ∧ Tabbed (chars line) ds ∧
      Wrapped ds (joinLines (shown.map chars)) := by
  have htabbed := tabbed_fillTabs line
  unfold Settable at h
  unfold Console.setLine
  generalize fillTabs 0 [] line = filled at h htabbed ⊢
  have hfilled : '\n' ∉ chars filled := (htabbed.mem_iff (by decide) (by decide)).not.mpr hfeed
  obtain ⟨hflatten, hpieces⟩ :=
    setAs_broken (by decide : 2 ≤ lineWidth) (h.imp_right htabbed.plain) hfilled
  obtain ⟨shown, hshown, hne, hwrapped⟩ := wrapped_mapM (broken_ne_nil lineWidth filled) hpieces
  rw [hflatten] at hwrapped
  exact ⟨shown, chars filled, hshown, hne, htabbed, hwrapped⟩

/-! ## Texts -/

theorem linesOf_cons (p : Placed) (rest : List Placed) :
    ∃ first more, linesOf rest = first :: more ∧
      linesOf (p :: rest) =
        if p.char = '\n' then [] :: first :: more else (p :: first) :: more := by
  have hne (rest : List Placed) : linesOf rest ≠ [] := by
    cases rest with
    | nil => simp [linesOf]
    | cons p rest =>
      rw [linesOf]
      split
      · split <;> simp
      · simp
  obtain ⟨first, more, hlines⟩ := List.exists_cons_of_ne_nil (hne rest)
  exact ⟨first, more, hlines, by rw [linesOf, hlines]⟩

theorem linesOf_ne_nil (ps : List Placed) : linesOf ps ≠ [] := by
  cases ps with
  | nil => simp [linesOf]
  | cons p rest =>
    obtain ⟨first, more, -, hlines⟩ := linesOf_cons p rest
    rw [hlines]
    split <;> simp

/-- Lines are lines: there is no line feed in them, and they are parts of the text. -/
theorem of_mem_linesOf {ps line : List Placed} (h : line ∈ linesOf ps) :
    '\n' ∉ chars line ∧ line.Sublist ps := by
  induction ps generalizing line with
  | nil => simp_all [linesOf]
  | cons p rest ih =>
    obtain ⟨first, more, hrest, hlines⟩ := linesOf_cons p rest
    rw [hrest] at ih
    rw [hlines] at h
    split at h
    · rcases List.mem_cons.mp h with rfl | h
      · simp
      · exact ⟨(ih h).1, (ih h).2.cons p⟩
    · rename_i hp
      rcases List.mem_cons.mp h with rfl | h
      · obtain ⟨hfeed, hsublist⟩ := ih List.mem_cons_self
        refine ⟨?_, hsublist.cons_cons p⟩
        rw [chars_cons, List.mem_cons, not_or]
        exact ⟨Ne.symm hp, hfeed⟩
      · obtain ⟨hfeed, hsublist⟩ := ih (List.mem_cons_of_mem _ h)
        exact ⟨hfeed, hsublist.cons p⟩

/-- The lines of a text, put together again. -/
theorem joinLines_linesOf (ps : List Placed) : joinLines ((linesOf ps).map chars) = chars ps := by
  induction ps with
  | nil => rfl
  | cons p rest ih =>
    obtain ⟨first, more, hrest, hlines⟩ := linesOf_cons p rest
    rw [hrest] at ih
    rw [hlines, chars_cons, ← ih]
    split
    · rename_i hp
      rw [hp]
      rfl
    · cases more <;> rfl

/-- How a text is shown: its tabs are filled up, and its lines are wrapped. -/
def ShownAs (cs ss : List Char) : Prop := ∃ ds, Tabbed cs ds ∧ Wrapped ds ss

/-- A text is shown with all its characters, in their order, but for blanks. -/
theorem ShownAs.ink_eq (h : ShownAs cs ss) : ink ss = ink cs := by
  obtain ⟨ds, htabbed, hwrapped⟩ := h
  rw [hwrapped.ink_eq, htabbed.ink_eq]

theorem shownAs_mapM {lines : List (List Placed)} (hne : lines ≠ [])
    (hlines : ∀ line ∈ lines, Settable line ∧ '\n' ∉ chars line) :
    ∃ shown, lines.mapM setLine = .ok shown ∧ shown.flatten ≠ [] ∧
      ShownAs (joinLines (lines.map chars)) (joinLines (shown.flatten.map chars)) := by
  induction lines with
  | nil => exact absurd rfl hne
  | cons line lines ih =>
    obtain ⟨⟨hline, hfeed⟩, hlines⟩ := List.forall_mem_cons.mp hlines
    obtain ⟨first, ds, hfirst, hfirstNe, htabbed, hwrapped⟩ := hline.setLine hfeed
    by_cases hnil : lines = []
    · subst hnil
      refine ⟨[first], Layout.mapM_cons_ok.mpr ⟨first, [], hfirst, rfl, rfl⟩, by simpa, ds, ?_, ?_⟩
      · exact htabbed
      · simpa using hwrapped
    · obtain ⟨shown, hshown, hshownNe, es, htabs, hrest⟩ := ih hnil hlines
      refine ⟨first :: shown, Layout.mapM_cons_ok.mpr ⟨first, shown, hfirst, hshown, rfl⟩,
        by simp [hfirstNe], ds ++ '\n' :: es, ?_, ?_⟩
      · rw [List.map_cons, joinLines_cons _ (by simpa using hnil)]
        exact htabbed.append (.char (by decide) htabs)
      · rw [List.flatten_cons, List.map_append,
          joinLines_append (by simpa using hfirstNe) (by simpa using hshownNe)]
        exact hwrapped.append (.char '\n' hrest) rfl

theorem setText_eq {shown : List (List (List Placed))}
    (h : (linesOf (placed cs)).mapM setLine = .ok shown) :
    setText cs = .ok ⟨shown.flatten, cs.length,
      cs.contains '\n' || cs.contains '\t' || 1 < shown.flatten.length⟩ := by
  rw [setText, h]
  rfl

/-- A text whose lines can be set is shown, and nothing but blanks is lost. -/
theorem exists_setText (h : ∀ line ∈ linesOf (placed cs), Settable line) :
    ∃ set, setText cs = .ok set ∧ ShownAs cs set.shown := by
  obtain ⟨shown, hshown, -, hshows⟩ := shownAs_mapM (linesOf_ne_nil (placed cs))
    fun line hline => ⟨h line hline, (of_mem_linesOf hline).1⟩
  rw [joinLines_linesOf, chars_placed] at hshows
  exact ⟨_, setText_eq hshown, hshows⟩

/-- A line without tabs has nothing to fill. -/
theorem fillTabs_eq {line : List Placed} (h : '\t' ∉ chars line) (position : Nat)
    (part : List Placed) : fillTabs position part line = part.reverse ++ line := by
  induction line generalizing part with
  | nil => simp [fillTabs]
  | cons p rest ih =>
    rw [chars_cons, List.mem_cons, not_or] at h
    rw [fillTabs, if_neg (Ne.symm h.1), ih h.2]
    simp

/-- A short line without tabs is set as it is. -/
theorem setLine_of_short {line : List Placed} (htab : '\t' ∉ chars line)
    (h : 2 * line.length ≤ lineWidth) : setLine line = .ok [line] := by
  have hcells : textCells (chars line) ≤ lineWidth := by
    refine (textCells_le _).trans ?_
    rwa [chars, List.length_map]
  have hwhole : withoutExcess lineWidth line = line := by
    rw [withoutExcess, Nat.sub_eq_zero_of_le (show line.length ≤ lineWidth by omega),
      Nat.min_zero, Nat.sub_zero, List.take_length]
  rw [setLine, fillTabs_eq htab, List.reverse_nil, List.nil_append, broken_eq_self hcells]
  simp [hwhole, cutOff, hcells, List.mapM_cons, bind, Except.bind, pure, Except.pure]

/-- A short text without tabs is shown as it is. -/
theorem exists_setText_of_short (htab : '\t' ∉ cs) (h : 2 * cs.length ≤ lineWidth) :
    ∃ set, setText cs = .ok set ∧ set.shown = cs := by
  have hset : (linesOf (placed cs)).mapM setLine = .ok ((linesOf (placed cs)).map ([·])) := by
    rw [Layout.mapM_ok_iff, List.forall₂_map_right_iff, List.forall₂_same]
    intro line hline
    have hsublist := (of_mem_linesOf hline).2
    have hlength : line.length ≤ cs.length := by
      rw [← chars_placed cs, chars, List.length_map]
      exact hsublist.length_le
    refine setLine_of_short (fun hmem => htab ?_) ?_
    · rw [← chars_placed cs]
      exact (hsublist.map Placed.char).subset hmem
    · omega
  refine ⟨_, setText_eq hset, ?_⟩
  simp only [SetText.shown, ← List.flatMap_def, List.flatMap_singleton']
  rw [joinLines_linesOf, chars_placed]

/-- A text with one joiner at most can be set, since no line of it starts with two. -/
theorem exists_setText_of_count (h : cs.count joiner ≤ 1) : ∃ set, setText cs = .ok set := by
  have hline : ∀ line ∈ linesOf (placed cs), ∃ shown, setLine line = .ok shown := by
    intro line hline
    have hcount : (chars (fillTabs 0 [] line)).count joiner ≤ 1 := by
      rw [(tabbed_fillTabs line).count_eq (by decide) (by decide)]
      refine le_trans (((of_mem_linesOf hline).2.map Placed.char).count_le joiner) ?_
      rw [← chars, chars_placed]
      exact h
    rw [setLine]
    generalize fillTabs 0 [] line = filled at hcount
    refine (Layout.isOk_mapM_iff _).mpr fun piece hpiece => ?_
    have hsublist : (withoutExcess lineWidth piece).Sublist filled :=
      ((List.take_sublist _ piece).trans (List.sublist_flatten_of_mem hpiece)).trans
        (flatten_broken_sublist lineWidth filled)
    have hstart : ¬ [joiner, joiner] <+: chars (withoutExcess lineWidth piece) := by
      intro hprefix
      have htwo := hprefix.sublist.count_le joiner
      have hone := (hsublist.map Placed.char).count_le joiner
      rw [← chars, ← chars] at hone
      have : [joiner, joiner].count joiner = 2 := by decide
      omega
    have hle := textCells_le_totalCells hstart
    unfold cutOff
    split
    · exact ⟨_, rfl⟩
    · rw [if_neg (by omega)]
      exact ⟨_, rfl⟩
  obtain ⟨shown, hshown⟩ := (Layout.isOk_mapM_iff _).mpr hline
  exact ⟨_, setText_eq hshown⟩

end PenPlot.Console
