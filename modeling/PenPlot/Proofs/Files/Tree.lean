-- What a write to one file leaves of a tree. A file is put where no directory stands, and the
-- directories above it are there already, so every other path leads where it led before.
import PenPlot.Files.Tree

namespace PenPlot.Files

variable {α : Type} {t t' : Tree α} {p q : Place}

/-! ## What holds a place -/

/-- All places above a place are directories. -/
def Tree.Holds (t : Tree α) (p : Place) : Prop :=
  ∀ q, q ≠ p → p.isBelow q = true → t.at? q = some .directory

theorem Place.isBelow_iff :
    p.isBelow q = true ↔ p.fromRoot = q.fromRoot ∧ p.up = q.up ∧ q.names <+: p.names := by
  simp [Place.isBelow, and_assoc]

/-- A place that is as high as the place above it has the same names. -/
theorem Place.eq_of_isBelow (h : p.isBelow q = true) (hnames : p.names = q.names) : q = p := by
  obtain ⟨hroot, hup, -⟩ := Place.isBelow_iff.mp h
  cases p; cases q
  simp_all

theorem holds_of_names_nil (h : p.names = []) : t.Holds p := by
  intro q hne hbelow
  have hnames := (Place.isBelow_iff.mp hbelow).2.2
  rw [h, List.prefix_nil] at hnames
  exact absurd (Place.eq_of_isBelow hbelow (h.trans hnames.symm)) hne

theorem Tree.Holds.parent (h : t.Holds p) : t.Holds p.parent := by
  by_cases hnames : p.names = []
  · refine holds_of_names_nil ?_
    unfold Place.parent
    rw [if_neg (not_not_intro hnames)]
    split <;> exact hnames
  · have hparent : p.parent = { p with names := p.names.dropLast } := if_pos hnames
    rw [hparent]
    intro q _ hbelow
    obtain ⟨hroot, hup, hprefix⟩ := Place.isBelow_iff.mp hbelow
    refine h q ?_ (Place.isBelow_iff.mpr ⟨hroot, hup, hprefix.trans (List.dropLast_prefix _)⟩)
    rintro rfl
    have hlength := hprefix.length_le
    have hpos := List.length_pos_iff.mpr hnames
    simp only [List.length_dropLast] at hlength
    omega

theorem Tree.Holds.child (h : t.Holds p) (hp : t.at? p = some .directory) (name : Name) :
    t.Holds (p.child name) := by
  intro q hne hbelow
  obtain ⟨hroot, hup, hprefix⟩ := Place.isBelow_iff.mp hbelow
  rcases List.prefix_concat_iff.mp hprefix with hnames | hnames
  · exact absurd (Place.eq_of_isBelow hbelow hnames.symm) hne
  · by_cases hqp : q = p
    · exact hqp ▸ hp
    · exact h q hqp (Place.isBelow_iff.mpr ⟨hroot, hup, hnames⟩)

/-! ## Following a path -/

/-- A step leads somewhere from directories alone. -/
theorem step_eq_ok_iff {name : Name} : t.step p name = .ok q ↔
    t.at? p = some .directory ∧
      (if name = parentName then p.parent = q
        else (String.ofList name).utf8ByteSize ≤ maxNameBytes ∧ p.child name = q) := by
  unfold Tree.step
  split
  · simp_all
  · simp_all
  · rename_i hp
    simp only [hp, true_and]
    split
    · simp
    · split
      · simp only [reduceCtorEq, false_iff, not_and]
        omega
      · simp only [Except.ok.injEq]
        constructor
        · exact fun h => ⟨by omega, h⟩
        · exact And.right

theorem Tree.Holds.step {name : Name} (h : t.Holds p) (hstep : t.step p name = .ok q) :
    t.Holds q := by
  obtain ⟨hp, hq⟩ := step_eq_ok_iff.mp hstep
  split at hq
  · exact hq ▸ h.parent
  · exact hq.2 ▸ h.child hp name

/-- More names after a place lead to places that are held, too. -/
theorem Tree.Holds.foldlM {names : List Name} (h : t.Holds p)
    (hnames : names.foldlM t.step p = .ok q) : t.Holds q := by
  induction names generalizing p with
  | nil =>
    obtain rfl : p = q := by simpa [pure, Except.pure] using hnames
    exact h
  | cons name names ih =>
    rw [List.foldlM_cons] at hnames
    cases hstep : t.step p name with
    | error e => rw [hstep] at hnames; cases hnames
    | ok next =>
      rw [hstep] at hnames
      exact ih (h.step hstep) hnames

/-- The place that a path leads to is held by directories. -/
theorem holds_of_follow {path : Path} (h : t.follow path = .ok p) : t.Holds p := by
  unfold Tree.follow at h
  split at h
  · cases h
  · exact Tree.Holds.foldlM (holds_of_names_nil rfl) h

theorem foldlM_step {names : List Name} (hdirectories : ∀ n < names.length,
      t.at? { p with names := p.names ++ names.take n } = some .directory)
    (hnames : ∀ name ∈ names, name ≠ parentName ∧
      (String.ofList name).utf8ByteSize ≤ maxNameBytes) :
    names.foldlM t.step p = .ok { p with names := p.names ++ names } := by
  induction names generalizing p with
  | nil => simp [pure, Except.pure]
  | cons name names ih =>
    obtain ⟨⟨hname, hbytes⟩, hnames⟩ := List.forall_mem_cons.mp hnames
    have hp : t.at? p = some .directory := by simpa using hdirectories 0 (Nat.zero_lt_succ _)
    have hstep : t.step p name = .ok (p.child name) :=
      step_eq_ok_iff.mpr ⟨hp, by rw [if_neg hname]; exact ⟨hbytes, rfl⟩⟩
    have hrest := @ih (p.child name) (fun n hn => by
      simpa [Place.child] using hdirectories (n + 1) (Nat.succ_lt_succ hn)) hnames
    rw [List.foldlM_cons, hstep]
    refine hrest.trans ?_
    simp [Place.child]

/-- A path through directories leads along its names. -/
theorem follow_of_directories {path : Path} (hbytes : path.toString.utf8ByteSize ≤ maxPathBytes)
    (hdirectories : ∀ n < path.names.length,
      t.at? { Place.start path with names := path.names.take n } = some .directory)
    (hnames : ∀ name ∈ path.names, name ≠ parentName ∧
      (String.ofList name).utf8ByteSize ≤ maxNameBytes) :
    t.follow path = .ok { Place.start path with names := path.names } := by
  rw [Tree.follow, if_neg (Nat.not_lt.mpr hbytes)]
  exact foldlM_step hdirectories hnames

/-! ## Putting a file -/

theorem at?_put (t : Tree α) (p : Place) (entry : Entry α) :
    (t.put p entry).at? p = some entry := by
  have hnone : (t.entries.filter fun e => e.1 != p).find? (fun e => e.1 == p) = none := by
    rw [List.find?_eq_none]
    intro e he
    simpa using (List.mem_filter.mp he).2
  simp [Tree.at?, Tree.put, List.find?_append, hnone]

theorem find?_put_of_ne (t : Tree α) (entry : Entry α) (hne : q ≠ p) :
    (t.put p entry).entries.find? (fun e => e.1 == q) = t.entries.find? (fun e => e.1 == q) := by
  have hother : (fun e : Place × Entry α => decide ((e.1 != p) = true ∧ (e.1 == q) = true)) =
      fun e => e.1 == q := by
    funext e
    by_cases he : e.1 = q <;> simp [he, hne]
  simp only [Tree.put, List.find?_append, List.find?_filter, hother]
  simp [Ne.symm hne]

theorem any_isBelow_put (t : Tree α) (entry : Entry α) (hbelow : ¬ p.isBelow q = true) :
    (t.put p entry).entries.any (fun e => e.1.isBelow q) =
      t.entries.any fun e => e.1.isBelow q := by
  rw [Bool.eq_iff_iff]
  simp only [Tree.put, List.any_append, List.any_cons, List.any_nil, List.any_eq_true,
    List.mem_filter, Bool.or_eq_true, Bool.or_false]
  constructor
  · rintro (⟨e, ⟨he, -⟩, hq⟩ | hq)
    · exact ⟨e, he, hq⟩
    · exact absurd hq hbelow
  · rintro ⟨e, he, hq⟩
    refine .inl ⟨e, ⟨he, ?_⟩, hq⟩
    rw [bne_iff_ne]
    rintro rfl
    exact hbelow hq

/-- Elsewhere there stands what stood there before. -/
theorem at?_put_of_ne (h : t.Holds p) (entry : Entry α) (hne : q ≠ p) :
    (t.put p entry).at? q = t.at? q := by
  have hfind := find?_put_of_ne t entry hne
  by_cases hbelow : p.isBelow q = true
  · -- A directory above the place is one whether or not something stands at the place.
    have hq := h q hne hbelow
    simp only [Tree.at?] at hq ⊢
    rw [hfind]
    cases hentry : t.entries.find? (fun e => e.1 == q) with
    | some e => rfl
    | none =>
      simp only [hentry] at hq ⊢
      rw [hq]
      simp [Tree.put, hbelow]
  · simp only [Tree.at?, hfind, any_isBelow_put t entry hbelow]

/-! ## Trees that differ in files alone -/

/-- Trees with the same directories, and with the same files but at some places. -/
structure Tree.SameBut (changed : Place → Prop) (t t' : Tree α) : Prop where
  directory_iff (q : Place) : t'.at? q = some .directory ↔ t.at? q = some .directory
  at?_eq {q : Place} (h : ¬ changed q) : t'.at? q = t.at? q

namespace Tree.SameBut

variable {changed changed' : Place → Prop} {t'' : Tree α}

theorem refl (changed : Place → Prop) (t : Tree α) : t.SameBut changed t :=
  ⟨fun _ => Iff.rfl, fun _ => rfl⟩

theorem trans (h : t.SameBut changed t') (h' : t'.SameBut changed t'') : t.SameBut changed t'' :=
  ⟨fun q => (h'.directory_iff q).trans (h.directory_iff q),
    fun hq => (h'.at?_eq hq).trans (h.at?_eq hq)⟩

theorem mono (h : t.SameBut changed t') (hchanged : ∀ q, changed q → changed' q) :
    t.SameBut changed' t' :=
  ⟨h.directory_iff, fun hq => h.at?_eq fun hq' => hq (hchanged _ hq')⟩

theorem put (h : t.Holds p) (hp : t.at? p ≠ some .directory) (hchanged : changed p) (content : α) :
    t.SameBut changed (t.put p (.file content)) where
  directory_iff q := by
    by_cases hqp : q = p
    · subst hqp
      simp [at?_put, hp]
    · rw [at?_put_of_ne h _ hqp]
  at?_eq hq := at?_put_of_ne h _ fun hqp => hq (hqp ▸ hchanged)

theorem step_iff (h : t.SameBut changed t') {name : Name} :
    t'.step p name = .ok q ↔ t.step p name = .ok q := by
  rw [step_eq_ok_iff, step_eq_ok_iff, h.directory_iff]

theorem foldlM_iff (h : t.SameBut changed t') {names : List Name} :
    names.foldlM t'.step p = .ok q ↔ names.foldlM t.step p = .ok q := by
  induction names generalizing p with
  | nil => rfl
  | cons name names ih =>
    have hbind (s : Tree α) : List.foldlM s.step p (name :: names) = .ok q ↔
        ∃ next, s.step p name = .ok next ∧ names.foldlM s.step next = .ok q := by
      rw [List.foldlM_cons]
      cases s.step p name <;> simp [bind, Except.bind]
    simp only [hbind, h.step_iff, ih]

/-- A path leads to the same place. -/
theorem follow_iff (h : t.SameBut changed t') {path : Path} :
    t'.follow path = .ok p ↔ t.follow path = .ok p := by
  unfold Tree.follow
  split
  · rfl
  · exact h.foldlM_iff

/-- A path to another place leads to what it led to before. -/
theorem toOption_look (h : t.SameBut changed t') {path : Path}
    (hpath : ∀ p, t.follow path = .ok p → ¬ changed p) :
    (t'.look path).toOption = (t.look path).toOption := by
  unfold Tree.look
  split
  · rfl
  · cases hfollow : t.follow path with
    | ok p =>
      rw [h.follow_iff.mpr hfollow]
      simp only [h.at?_eq (hpath p hfollow)]
    | error e =>
      cases hfollow' : t'.follow path with
      | error e' => rfl
      | ok p =>
        rw [h.follow_iff.mp hfollow'] at hfollow
        cases hfollow

end Tree.SameBut

/-! ## Writing -/

/-- A change of a file puts a file at the place that the path leads to. -/
theorem exists_of_modify {path : Path} {change : Option α → α} (h : t.modify path change = .ok t') :
    ∃ p content?, t.follow path = .ok p ∧ t.at? p ≠ some .directory ∧
      t' = t.put p (.file (change content?)) := by
  unfold Tree.modify at h
  cases hfollow : t.follow path with
  | error e => rw [hfollow] at h; cases h
  | ok p =>
    rw [hfollow] at h
    simp only at h
    split at h
    · cases h
    · rename_i content hat
      exact ⟨p, some content, rfl, by simp [hat], (Except.ok.inj h).symm⟩
    · rename_i hat
      exact ⟨p, none, rfl, by simp [hat], (Except.ok.inj h).symm⟩

theorem exists_modify {path : Path} (hfollow : t.follow path = .ok p)
    (hp : t.at? p ≠ some .directory) (change : Option α → α) :
    ∃ t', t.modify path change = .ok t' := by
  unfold Tree.modify
  rw [hfollow]
  simp only
  split
  · exact absurd ‹_› hp
  · exact ⟨_, rfl⟩
  · exact ⟨_, rfl⟩

/-- A change of a file is seen at its place alone. -/
theorem sameBut_of_modify {path : Path} {change : Option α → α}
    (h : t.modify path change = .ok t') : t.SameBut (fun p => t.follow path = .ok p) t' := by
  obtain ⟨p, content?, hfollow, hp, rfl⟩ := exists_of_modify h
  exact .put (holds_of_follow hfollow) hp hfollow _

/-- What was written is what is found. -/
theorem look_of_write {path : Path} {content : α} (h : t.write path content = .ok t')
    (hnull : path.hasNull = false) : t'.look path = .ok (.file content) := by
  obtain ⟨p, -, hfollow, hp, rfl⟩ := exists_of_modify h
  have hsame := sameBut_of_modify h
  simp only [Tree.look, hnull, Bool.false_eq_true, if_false, hsame.follow_iff.mpr hfollow, at?_put]

end PenPlot.Files
