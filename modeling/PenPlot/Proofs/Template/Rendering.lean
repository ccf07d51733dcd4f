-- Filling in a template. The text is taken apart once, and what each field shows depends on its
-- own value alone, so what a value brings in is never taken apart again. A template is refused
-- exactly where a required field has no value or a blank one.
import Mathlib.Data.List.Forall2
import PenPlot.Proofs.Template.Pieces
import PenPlot.Proofs.Text.Lines

namespace PenPlot.Template

/-! ## The values of fields -/

/-- The value that is given for a field: the last one under its name. -/
def Values.Gives (values : Values) (name value : String) : Prop :=
  ∃ before after, values = before ++ (name, value) :: after ∧ ∀ v ∈ after, v.1 ≠ name

/-- A field has no value, or one of blanks. -/
def Values.Lacks (values : Values) (name : String) : Prop :=
  ∀ value, values.Gives name value → ∀ c ∈ value.toList, Text.isBlank c = true

/-- A field has a value that is not blank, and shows it without the blanks around it. -/
def Values.Answers (values : Values) (name shown : String) : Prop :=
  ∃ value, values.Gives name value ∧ shown = Text.trimmed value ∧ shown ≠ ""

variable {values other : Values} {name shown : String}

theorem Values.gives_iff {value : String} : values.Gives name value ↔
    values.reverse.find? (fun v => v.1 == name) = some (name, value) := by
  rw [List.find?_eq_some_iff_append]
  constructor
  · rintro ⟨before, after, rfl, hafter⟩
    refine ⟨by simp, after.reverse, before.reverse, by simp, fun v hv => ?_⟩
    simpa using hafter v (List.mem_reverse.mp hv)
  · rintro ⟨-, front, back, hsplit, hfront⟩
    refine ⟨back.reverse, front.reverse, ?_, fun v hv => ?_⟩
    · rw [List.reverse_eq_iff.mp hsplit]
      simp
    · simpa using hfront v (List.mem_reverse.mp hv)

theorem Values.find?_eq (values : Values) (name : String) :
    values.find? name = ((values.reverse.find? fun v => v.1 == name).map fun v =>
      Text.trimmed v.2).filter (· ≠ "") := by
  unfold find?
  cases values.reverse.find? fun v => v.1 == name with
  | none => rfl
  | some entry =>
    rw [Option.map_some]
    by_cases hblank : Text.trimmed entry.2 = "" <;> simp [hblank, Option.filter]

/-- A field is found exactly where it is answered. -/
theorem Values.find?_eq_some_iff : values.find? name = some shown ↔ values.Answers name shown := by
  rw [find?_eq, Option.filter_eq_some_iff, Option.map_eq_some_iff, decide_eq_true_eq]
  constructor
  · rintro ⟨⟨⟨key, value⟩, hentry, rfl⟩, hne⟩
    obtain rfl : key = name := by simpa using List.find?_some hentry
    exact ⟨value, gives_iff.mpr hentry, rfl, hne⟩
  · rintro ⟨value, hgives, rfl, hne⟩
    exact ⟨⟨(name, value), gives_iff.mp hgives, rfl⟩, hne⟩

theorem trimmed_eq_empty_iff (s : String) :
    Text.trimmed s = "" ↔ ∀ c ∈ s.toList, Text.isBlank c = true := by
  unfold Text.trimmed
  rw [← Text.trimBy_eq_nil_iff Text.isBlank, String.ofList_eq_empty_iff]
  rfl

/-- A field is lacking exactly where it is not found. -/
theorem Values.find?_eq_none_iff : values.find? name = none ↔ values.Lacks name := by
  rw [Option.eq_none_iff_forall_ne_some]
  simp only [ne_eq, find?_eq_some_iff]
  constructor
  · intro hnone value hgives
    rw [← trimmed_eq_empty_iff]
    by_contra hne
    exact hnone _ ⟨value, hgives, rfl, hne⟩
  · rintro hlacks shown ⟨value, hgives, rfl, hne⟩
    exact hne ((trimmed_eq_empty_iff value).mpr (hlacks value hgives))

instance (values : Values) : DecidablePred values.Lacks := fun _ =>
  decidable_of_iff _ values.find?_eq_none_iff

/-- Of the values, only those that are given count. -/
theorem Values.find?_congr (h : ∀ value, values.Gives name value ↔ other.Gives name value) :
    other.find? name = values.find? name := by
  refine Option.ext fun shown => ?_
  simp only [find?_eq_some_iff, Values.Answers, h]

/-- Where no name occurs twice, the values that are given are the entries. -/
theorem Values.gives_iff_mem (h : (values.map Prod.fst).Nodup) {value : String} :
    values.Gives name value ↔ (name, value) ∈ values := by
  constructor
  · rintro ⟨before, after, rfl, -⟩
    exact List.mem_append_right _ List.mem_cons_self
  · intro hmem
    obtain ⟨before, after, rfl⟩ := List.append_of_mem hmem
    refine ⟨before, after, rfl, fun v hv hname => ?_⟩
    rw [List.map_append, List.map_cons] at h
    have hnot := (List.nodup_cons.mp (List.nodup_append.mp h).2.1).1
    exact hnot (List.mem_map.mpr ⟨v, hv, hname⟩)

/-! ## What a piece shows -/

/-- What a piece shows: a character shows itself, and a field shows its value without the blanks
around it, or else today's date, or its sample, or itself. -/
inductive Shows (values : Values) (today : String) : Piece → String → Prop
  | literal (c : Char) : Shows values today (.literal c) (String.singleton c)
  | value {name : List Char} {shown : String} :
      values.Answers (String.ofList name) shown → Shows values today (.field name) shown
  | today {name : List Char} :
      values.Lacks (String.ofList name) → String.ofList name = "date" →
      Shows values today (.field name) today
  | sample {name : List Char} {sample : String} :
      values.Lacks (String.ofList name) → String.ofList name ≠ "date" →
      (String.ofList name, sample) ∈ samples → Shows values today (.field name) sample
  | itself {name : List Char} :
      values.Lacks (String.ofList name) → String.ofList name ≠ "date" →
      (∀ sample, (String.ofList name, sample) ∉ samples) →
      Shows values today (.field name) (String.ofList (Piece.field name).source)

/-- Every sample is shown as it is: none has blanks around it, and no two have one name. -/
theorem find?_samples : samples.find? name = some shown ↔ (name, shown) ∈ samples := by
  have htrimmed : ∀ v ∈ samples, Text.trimmed v.2 = v.2 ∧ v.2 ≠ "" := by decide +kernel
  have hgives : ∀ value, Values.Gives samples name value ↔ (name, value) ∈ samples := fun value =>
    Values.gives_iff_mem (by decide)
  rw [Values.find?_eq_some_iff]
  constructor
  · rintro ⟨value, hvalue, rfl, -⟩
    have hmem := (hgives value).mp hvalue
    rwa [(htrimmed _ hmem).1]
  · intro hmem
    obtain ⟨hsame, hne⟩ := htrimmed _ hmem
    exact ⟨shown, (hgives shown).mpr hmem, hsame.symm, hne⟩

variable {today : String} {p : Piece}

theorem Shows.eq_fill (h : Shows values today p shown) : shown = p.fill values today := by
  cases h with
  | literal c => rfl
  | value hanswers => simp [Piece.fill, Piece.name?, Values.find?_eq_some_iff.mpr hanswers]
  | today hlacks hdate =>
    rw [hdate, ← Values.find?_eq_none_iff] at hlacks
    simp [Piece.fill, Piece.name?, hdate, hlacks]
  | sample hlacks hdate hmem =>
    simp [Piece.fill, Piece.name?, Values.find?_eq_none_iff.mpr hlacks, hdate,
      find?_samples.mpr hmem]
  | itself hlacks hdate hnone =>
    have hfind : samples.find? _ = none := Option.eq_none_iff_forall_ne_some.mpr fun sample h =>
      hnone sample (find?_samples.mp h)
    simp [Piece.fill, Piece.name?, Values.find?_eq_none_iff.mpr hlacks, hdate, hfind]

/-- Each piece shows something. -/
theorem exists_shows (values : Values) (today : String) (p : Piece) :
    ∃ shown, Shows values today p shown := by
  cases p with
  | literal c => exact ⟨_, .literal c⟩
  | field name =>
    cases hfind : values.find? (String.ofList name) with
    | some value => exact ⟨value, .value (Values.find?_eq_some_iff.mp hfind)⟩
    | none =>
      have hlacks := Values.find?_eq_none_iff.mp hfind
      by_cases hdate : String.ofList name = "date"
      · exact ⟨today, .today hlacks hdate⟩
      · by_cases hsample : ∃ sample, (String.ofList name, sample) ∈ samples
        · obtain ⟨sample, hmem⟩ := hsample
          exact ⟨sample, .sample hlacks hdate hmem⟩
        · exact ⟨_, .itself hlacks hdate (not_exists.mp hsample)⟩

theorem shows_iff : Shows values today p shown ↔ shown = p.fill values today := by
  constructor
  · exact Shows.eq_fill
  · rintro rfl
    obtain ⟨shown, h⟩ := exists_shows values today p
    rwa [← h.eq_fill]

theorem forall₂_shows_iff {ps : List Piece} {texts : List String} :
    List.Forall₂ (Shows values today) ps texts ↔ texts = ps.map (Piece.fill values today) := by
  constructor
  · intro h
    induction h with
    | nil => rfl
    | cons hp _ ih => rw [hp.eq_fill, ih, List.map_cons]
  · rintro rfl
    exact List.forall₂_map_right_iff.mpr (List.forall₂_same.mpr fun _ _ => shows_iff.mpr rfl)

/-! ## The outcome -/

variable {t : Template}

theorem missing_eq (t : Template) (values : Values) :
    t.missing values = t.requiredFields.filter values.Lacks := by
  refine List.filter_congr fun name _ => ?_
  rw [Bool.eq_iff_iff, Option.isNone_iff_eq_none, Values.find?_eq_none_iff, decide_eq_true_eq]

theorem missing_eq_nil_iff :
    t.missing values = [] ↔ ∀ name ∈ t.requiredFields, ¬ values.Lacks name := by
  simp only [missing_eq, List.filter_eq_nil_iff, decide_eq_true_eq]

/-- A template is refused for the fields that are lacking, and for these alone. -/
theorem render_error_iff {e : RequestFault} : t.render values today = .error e ↔
    (∃ name ∈ t.requiredFields, values.Lacks name) ∧
      e = .fieldsMissing t.label (t.requiredFields.filter values.Lacks) := by
  have hlacking : (∃ name ∈ t.requiredFields, values.Lacks name) ↔ t.missing values ≠ [] := by
    rw [ne_eq, missing_eq_nil_iff]
    push Not
    rfl
  rw [hlacking, ← missing_eq]
  unfold render
  cases t.missing values with
  | nil => simp
  | cons name more => simp [eq_comm]

theorem render_ok_iff {text : String} : t.render values today = .ok text ↔
    (∀ name ∈ t.requiredFields, ¬ values.Lacks name) ∧
      text = String.join ((pieces t.text.toList).map (Piece.fill values today)) := by
  rw [← missing_eq_nil_iff]
  unfold render
  cases t.missing values with
  | nil => simp [eq_comm]
  | cons name more => simp

/-- What is filled in depends on the values of the fields of the text and of the required ones. -/
theorem render_congr (h : ∀ name, name ∈ t.placeholders ∨ name ∈ t.requiredFields →
    ∀ value, values.Gives name value ↔ other.Gives name value) :
    t.render other today = t.render values today := by
  have hmissing : t.missing other = t.missing values :=
    List.filter_congr fun name hname => by rw [Values.find?_congr (h name (Or.inr hname))]
  have hpieces : (pieces t.text.toList).map (Piece.fill other today) =
      (pieces t.text.toList).map (Piece.fill values today) := by
    refine List.map_congr_left fun p hp => ?_
    unfold Piece.fill
    cases hname : p.name? with
    | none => rfl
    | some name =>
      have hplaceholder := ((firstOccurrences_placeholders t).mem_iff name).mpr
        (List.mem_filterMap.mpr ⟨p, hp, hname⟩)
      simp only [Values.find?_congr (h name (Or.inl hplaceholder))]
  unfold render
  rw [hmissing, hpieces]

/-! ## The law -/

/-- A template is filled in once. Its text is taken apart into characters and fields in one way, and
its fields are listed in the order in which they first occur. It is refused exactly where a required
field has no value or a blank one, and then the report names these fields in the order in which they
are required. Otherwise each piece shows what it shows by itself, one after the other: a required
field shows the value that was given for it, and values for other names change nothing. -/
theorem a_template_is_filled_in_once (t : Template) (values : Values) (today : String) :
    ∃ ps, (∀ qs, Decomposed t.text.toList qs ↔ qs = ps) ∧
      ps.flatMap Piece.source = t.text.toList ∧
      FirstOccurrences (ps.filterMap Piece.name?) t.placeholders ∧
      ((∃ e, t.render values today = .error e) ↔
        ∃ name ∈ t.requiredFields, values.Lacks name) ∧
      (∀ e, t.render values today = .error e →
        e.reason = "template '" ++ t.label ++ "' is missing required fields: " ++
          String.intercalate ", " (t.requiredFields.filter values.Lacks)) ∧
      (∀ text, t.render values today = .ok text ↔
        (∀ name ∈ t.requiredFields, ¬ values.Lacks name) ∧
          ∃ shown, List.Forall₂ (Shows values today) ps shown ∧ text = String.join shown) ∧
      (∀ text, t.render values today = .ok text →
        ∀ name, .field name ∈ ps → String.ofList name ∈ t.requiredFields →
          ∃ value, values.Gives (String.ofList name) value ∧ Text.trimmed value ≠ "" ∧
            ∀ shown, Shows values today (.field name) shown ↔ shown = Text.trimmed value) ∧
      ∀ other : Values, (∀ name, name ∈ t.placeholders ∨ name ∈ t.requiredFields →
        ∀ value, values.Gives name value ↔ other.Gives name value) →
          t.render other today = t.render values today := by
  refine ⟨pieces t.text.toList, fun qs => decomposed_iff, (decomposed_pieces _).flatMap_source,
    firstOccurrences_placeholders t, ?_, ?_, ?_, ?_, fun other => render_congr⟩
  · simp only [render_error_iff, exists_and_left, exists_eq, and_true]
  · intro e he
    obtain ⟨-, rfl⟩ := render_error_iff.mp he
    rfl
  · intro text
    simp only [render_ok_iff, forall₂_shows_iff, exists_eq_left]
  · intro text htext name _ hrequired
    have hgiven := (render_ok_iff.mp htext).1 _ hrequired
    rw [← Values.find?_eq_none_iff, Option.eq_none_iff_forall_ne_some] at hgiven
    push Not at hgiven
    obtain ⟨shown, hshown⟩ := hgiven
    obtain ⟨value, hgives, rfl, hne⟩ := Values.find?_eq_some_iff.mp hshown
    refine ⟨value, hgives, hne, fun shown => ?_⟩
    rw [shows_iff]
    simp [Piece.fill, Piece.name?, hshown]

/-- A template with a required field in two pairs of braces, and a field after it. -/
def bracedNote : Template where
  label := "Note"
  requiredFields := ["name"]
  text := "\x7b\x7bname\x7d\x7d\x7bcode\x7d"

/-- Of two values the last counts, and the braces that it brings in are shown. -/
theorem a_value_with_braces_is_shown_with_them :
    let values : Values := [("name", "Ada"), ("name", " \x7bcode\x7d\n")]
    let other : Values := [("note", "!"), ("name", " \x7bcode\x7d\n")]
    bracedNote.render values "2024-02-29" = .ok "\x7b\x7bcode\x7d\x7d123456" ∧
      (∃ value, values.Gives "name" value ∧ Text.trimmed value ≠ "") ∧
      bracedNote.render other "2024-02-29" = bracedNote.render values "2024-02-29" := by
  intro values other
  obtain ⟨ps, hps, -, hnames, -, -, hok, hrequired, hother⟩ :=
    a_template_is_filled_in_once bracedNote values "2024-02-29"
  have htext : bracedNote.text.toList = '\x7b' :: ((Piece.field ['n', 'a', 'm', 'e']).source ++
      '\x7d' :: ((Piece.field ['c', 'o', 'd', 'e']).source ++ [])) := by decide +kernel
  have hname : IsName ['n', 'a', 'm', 'e'] :=
    ⟨by decide, List.all_eq_true.mp (by decide +kernel)⟩
  have hcode : IsName ['c', 'o', 'd', 'e'] :=
    ⟨by decide, List.all_eq_true.mp (by decide +kernel)⟩
  have hdecomposed : Decomposed bracedNote.text.toList
      [.literal '\x7b', .field ['n', 'a', 'm', 'e'], .literal '\x7d',
        .field ['c', 'o', 'd', 'e']] := by
    rw [htext]
    exact .literal (by decide +kernel) <| .field hname <|
      .literal (by decide +kernel) <| .field hcode .done
  obtain rfl := (hps _).mp hdecomposed
  have hrendered : bracedNote.render values "2024-02-29" = .ok "\x7b\x7bcode\x7d\x7d123456" :=
    (hok _).mpr ⟨by decide +kernel, _, forall₂_shows_iff.mpr rfl, by decide +kernel⟩
  obtain ⟨value, hgives, hne, -⟩ := hrequired _ hrendered _
    (List.mem_cons_of_mem _ List.mem_cons_self) (by decide)
  refine ⟨hrendered, ⟨value, hgives, hne⟩, hother other fun name hname value => ?_⟩
  have hfields : name = "name" ∨ name = "code" := by
    rw [hnames.mem_iff] at hname
    rcases hname with hname | hname
    · simpa [Piece.name?, eq_comm] using hname
    · exact Or.inl (List.mem_singleton.mp hname)
  rw [Values.gives_iff, Values.gives_iff]
  rcases hfields with rfl | rfl <;> exact Iff.rfl

end PenPlot.Template
