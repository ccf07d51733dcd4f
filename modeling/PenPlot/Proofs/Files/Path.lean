-- The laws of paths. Reading leaves plain names, which are neither empty nor a dot and have no
-- slash in them. A path with plain names is read back from its text as it was, so what was read
-- once stays as it is, however often it is written and read again.
import PenPlot.Files.Path
import PenPlot.Proofs.Text.Lines

namespace PenPlot.Files

/-! ## Plain names -/

/-- A name as reading leaves it. -/
structure IsPlainName (name : List Char) : Prop where
  ne_nil : name ≠ []
  ne_dot : name ≠ ['.']
  no_slash : '/' ∉ name

variable {cs name : List Char} {names : List (List Char)}

theorem isPlainName_of_mem (h : name ∈ namesOfText cs) : IsPlainName name := by
  unfold namesOfText at h
  rw [List.mem_filter, decide_eq_true_eq] at h
  obtain ⟨hmem, hnil, hdot⟩ := h
  exact ⟨hnil, hdot, Text.not_mem_of_mem_splitAt hmem⟩

theorem joinNames_eq (names : List (List Char)) :
    joinNames names = ['/'].intercalate names := by
  induction names with
  | nil => rfl
  | cons name rest ih =>
    cases rest with
    | nil => simp [joinNames]
    | cons next rest => simp [joinNames, ih, List.intercalate_cons_cons]

/-- Plain names are read back from their text. -/
theorem namesOfText_joinNames (h : ∀ name ∈ names, IsPlainName name) :
    namesOfText (joinNames names) = names := by
  by_cases hnil : names = []
  · rw [hnil]
    rfl
  · have hslash : ∀ name ∈ names, '/' ∉ name := fun name hname => (h name hname).no_slash
    unfold namesOfText
    rw [Text.splitAt_eq_splitOn, joinNames_eq, List.splitOn_intercalate '/' hslash hnil,
      List.filter_eq_self]
    intro name hname
    simp [(h name hname).ne_nil, (h name hname).ne_dot]

/-- A slash in front makes no name. -/
theorem namesOfText_cons_slash (cs : List Char) : namesOfText ('/' :: cs) = namesOfText cs := by
  unfold namesOfText
  rw [Text.splitAt]
  cases hsplit : Text.splitAt '/' cs with
  | nil => exact absurd hsplit (Text.splitAt_ne_nil '/' cs)
  | cons piece pieces => simp

theorem namesOfText_root (root : Root) (cs : List Char) :
    namesOfText (root.text ++ cs) = namesOfText cs := by
  cases root <;> simp [Root.text, namesOfText_cons_slash]

/-! ## Roots -/

theorem Root.ofText_eq_working_iff : Root.ofText cs = .working ↔ cs.head? ≠ some '/' := by
  unfold Root.ofText
  split
  case h_4 hnone =>
    cases cs with
    | nil => simp
    | cons c rest => simpa using fun hc : c = '/' => hnone rest (by rw [hc])
  all_goals simp

/-- A root is read back from its slashes, if no slash follows them. -/
theorem Root.ofText_append (root : Root) (h : cs.head? ≠ some '/') :
    Root.ofText (root.text ++ cs) = root := by
  cases cs with
  | nil => cases root <;> rfl
  | cons c rest =>
    have hc : c ≠ '/' := fun hc => h (by rw [hc, List.head?_cons])
    cases root <;> simp [Root.text, Root.ofText, hc]

theorem head?_joinNames (h : ∀ name ∈ names, IsPlainName name) :
    (joinNames names).head? ≠ some '/' := by
  cases names with
  | nil => simp [joinNames]
  | cons name rest =>
    obtain ⟨hnil, -, hslash⟩ := h name List.mem_cons_self
    obtain ⟨c, more, rfl⟩ := List.exists_cons_of_ne_nil hnil
    have hc : c ≠ '/' := fun hc => hslash (by rw [hc]; exact List.mem_cons_self)
    cases rest <;> simpa [joinNames] using hc

/-! ## Reading back -/

/-- A path with plain names alone. -/
def Path.IsPlain (p : Path) : Prop := ∀ name ∈ p.names, IsPlainName name

variable {p q : Path}

theorem isPlain_ofString (s : String) : (Path.ofString s).IsPlain := fun _ => isPlainName_of_mem

/-- A plain path is read back from its text. -/
theorem Path.IsPlain.ofString_toString (h : p.IsPlain) : .ofString p.toString = p := by
  unfold toString
  split
  -- The working directory is the one path that is not written by its names.
  · next hroot hnames =>
    obtain ⟨root, names⟩ := p
    obtain rfl : root = .working := hroot
    obtain rfl : names = [] := hnames
    decide
  · unfold ofString
    rw [String.toList_ofList, Root.ofText_append _ (head?_joinNames h), namesOfText_root,
      namesOfText_joinNames h]

/-- A path that was read is written as a text that is read as the same path. -/
theorem ofString_toString_ofString (s : String) :
    Path.ofString (Path.ofString s).toString = Path.ofString s :=
  (isPlain_ofString s).ofString_toString

/-! ## Joining -/

theorem Path.join_of_working (h : q.root = .working) : p.join q = ⟨p.root, p.names ++ q.names⟩ := by
  unfold join
  rw [h]

theorem Path.join_of_ne_working (h : q.root ≠ .working) : p.join q = q := by
  unfold join
  split
  · exact absurd ‹_› h
  · rfl

theorem Path.IsPlain.join (hp : p.IsPlain) (hq : q.IsPlain) : (p.join q).IsPlain := by
  by_cases hroot : q.root = .working
  · rw [join_of_working hroot]
    intro name hname
    exact (List.mem_append.mp hname).elim (hp name) (hq name)
  · rw [join_of_ne_working hroot]
    exact hq

end PenPlot.Files
