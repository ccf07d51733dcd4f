-- Where the font of a name is found. The file of a font lies under the directory of fonts, unless
-- the name starts with a slash: then the file is found from the root, and the directory is not
-- looked at.
import PenPlot.Font.Locator
import PenPlot.Proofs.Files.Path
import PenPlot.Proofs.Text.Blanks

namespace PenPlot.Font

open Files (Path Root namesOfText)

/-! ## The names of a file -/

/-- The last name of the file of a font. What stands before it is the rest of the font's name. -/
theorem namesOfText_fileName (font : String) : ∃ folders stem,
    namesOfText (fileName font).toList = folders ++ [stem ++ ".ttf".toList] := by
  have hslash : '/' ∉ ".ttf".toList := by decide
  obtain ⟨pieces, stem, -, hsplit⟩ := Text.splitAt_append_piece hslash font.toList
  refine ⟨pieces.filter fun name => name ≠ [] ∧ name ≠ ['.'], stem, ?_⟩
  -- The ending goes to the last piece, which is then neither empty nor a dot.
  have hlast : stem ++ ".ttf".toList ≠ [] ∧ stem ++ ".ttf".toList ≠ ['.'] := by
    constructor
    · simp
    · intro hdot
      have hlength := congrArg List.length hdot
      simp at hlength
  unfold namesOfText fileName
  rw [String.toList_append, hsplit, List.filter_append, List.filter_singleton,
    decide_eq_true hlast]
  rfl

theorem root_fileName (font : String) :
    (Path.ofString (fileName font)).root = .working ↔ font.toList.head? ≠ some '/' := by
  unfold Path.ofString fileName
  rw [Root.ofText_eq_working_iff, String.toList_append]
  cases font.toList <;> simp

/-! ## Where the file lies -/

/-- A path lies under a directory: it leads through the directory and goes on from there. -/
structure IsUnder (p dir : Path) : Prop where
  root : p.root = dir.root
  names : ∃ more, more ≠ [] ∧ p.names = dir.names ++ more

/-- A path goes through a directory and then along the names of a file. -/
def LeadsTo (p dir file : Path) : Prop := p.root = dir.root ∧ p.names = dir.names ++ file.names

instance (p dir file : Path) : Decidable (LeadsTo p dir file) := instDecidableAnd

variable {p dir file : Path}

theorem LeadsTo.isUnder (h : LeadsTo p dir file) (hfile : file.names ≠ []) : IsUnder p dir :=
  ⟨h.1, file.names, hfile, h.2⟩

theorem leadsTo_join_iff :
    LeadsTo (dir.join file) dir file ↔
      file.root = .working ∨ dir.names = [] ∧ dir.root = file.root := by
  by_cases hroot : file.root = .working
  · simp [Path.join_of_working hroot, LeadsTo, hroot]
  · simp [Path.join_of_ne_working hroot, LeadsTo, hroot, and_comm, eq_comm]

/-- A font that is named without a path is found at the joined path, written in the one way that
is read back as it is. -/
theorem locator?_of_name {style : Settings.Style} {font : String} (hdir : dir.IsPlain)
    (hpath : style.fontPath = none) (hfont : style.font = some font) (hname : font ≠ "") :
    ∃ locator, locator? style dir = some locator ∧
      Path.ofString locator = dir.join (.ofString (fileName font)) ∧
      locator = (Path.ofString locator).toString := by
  have hread := (hdir.join (Files.isPlain_ofString (fileName font))).ofString_toString
  refine ⟨_, ?_, hread, by rw [hread]⟩
  unfold locator?
  rw [hpath, hfont]
  exact if_neg hname

/-- The font of a name is found under the directory of fonts, along the names of its file, exactly
where the name does not start with a slash; after a slash, only where the directory is the root that
the name starts at. Otherwise the file is found at its own path. Either way the last name is that of
a font file, and the locator is the text of the path that it is read as. -/
theorem a_font_is_found_in_the_directory_where_its_name_has_no_root {style : Settings.Style}
    {font : String} (directory : String) (hpath : style.fontPath = none)
    (hfont : style.font = some font) (hname : font ≠ "") :
    let dir := Path.ofString directory
    let file := Path.ofString (fileName font)
    ∃ locator, locator? style dir = some locator ∧
      let found := Path.ofString locator
      locator = found.toString ∧
      (font.toList.head? ≠ some '/' → LeadsTo found dir file ∧ IsUnder found dir) ∧
      (font.toList.head? = some '/' → found = file) ∧
      (LeadsTo found dir file ↔
        font.toList.head? ≠ some '/' ∨ dir.names = [] ∧ dir.root = file.root) ∧
      ∃ folders stem, found.names = folders ++ [stem ++ ".ttf".toList] := by
  intro dir file
  obtain ⟨locator, hlocator, hfound, htext⟩ :=
    locator?_of_name (Files.isPlain_ofString directory) hpath hfont hname
  obtain ⟨folders, stem, hnames⟩ :
      ∃ folders stem, file.names = folders ++ [stem ++ ".ttf".toList] := namesOfText_fileName font
  have hroot : file.root = .working ↔ font.toList.head? ≠ some '/' := root_fileName font
  have hleads : LeadsTo (dir.join file) dir file ↔
      font.toList.head? ≠ some '/' ∨ dir.names = [] ∧ dir.root = file.root := by
    rw [leadsTo_join_iff, hroot]
  have hrooted : font.toList.head? = some '/' → dir.join file = file := fun hslash =>
    Path.join_of_ne_working fun hworking => hroot.mp hworking hslash
  refine ⟨locator, hlocator, htext, ?_⟩
  rw [hfound]
  refine ⟨fun hslash => ?_, hrooted, hleads, ?_⟩
  · have hjoined := hleads.mpr (.inl hslash)
    exact ⟨hjoined, hjoined.isUnder (by rw [hnames]; simp)⟩
  · by_cases hslash : font.toList.head? = some '/'
    · exact ⟨folders, stem, by rw [hrooted hslash, hnames]⟩
    · refine ⟨dir.names ++ folders, stem, ?_⟩
      rw [(hleads.mpr (.inl hslash)).2, hnames, List.append_assoc]

/-- A style that names its font. -/
def styleNaming (font : String) : Settings.Style :=
  { Settings.Style.standard with font := some font }

/-- Slashes and dots within a name lead to folders of the directory. -/
theorem a_font_is_found_in_a_folder :
    ∃ locator,
      locator? (styleNaming ".//serif/./Old Face/") (.ofString "//fonts/./") = some locator ∧
      Path.ofString locator =
        ⟨.doubleSlash, ["fonts".toList, "serif".toList, "Old Face".toList, ".ttf".toList]⟩ := by
  have hfont : (styleNaming ".//serif/./Old Face/").font = some ".//serif/./Old Face/" := rfl
  obtain ⟨locator, hlocator, -, hunder, -⟩ :=
    a_font_is_found_in_the_directory_where_its_name_has_no_root "//fonts/./" rfl hfont (by decide)
  obtain ⟨⟨hroot, hnames⟩, -⟩ := hunder (by decide)
  refine ⟨locator, hlocator, ?_⟩
  generalize Path.ofString locator = found at hroot hnames
  obtain ⟨root, names⟩ := found
  simp only at hroot hnames
  rw [hroot, hnames]
  decide +kernel

/-- A name that starts with a slash leads out of the directory. -/
theorem a_font_may_be_found_elsewhere :
    ∃ locator, locator? (styleNaming "/etc/a") (.ofString "fonts") = some locator ∧
      ¬ LeadsTo (.ofString locator) (.ofString "fonts") (.ofString (fileName "/etc/a")) ∧
      ¬ IsUnder (.ofString locator) (.ofString "fonts") := by
  refine ⟨"/etc/a.ttf", by decide +kernel, by decide +kernel, fun hunder => ?_⟩
  exact absurd hunder.root (by decide +kernel)

end PenPlot.Font
