-- Overriding settings. Overrides are laid over a record as it is written, and what comes of that
-- is checked anew. The fields of the record settle, so each of them is taken again where no
-- override is laid over it: a record is refused exactly for the overrides that their own fields
-- refuse.
import Mathlib.Data.List.Forall2
import Mathlib.Data.List.Nodup
import PenPlot.Proofs.Settings.Records
import PenPlot.Settings.Change

namespace PenPlot.Settings

/-! ## Overrides -/

/-- Whether a value is laid over a field; a null is not. -/
def isLaid : Json → Bool
  | .null => false
  | _ => true

/-- What overrides lay over a field. Of several values for it the last one counts. -/
def override? (name : String) (overrides : List (String × Json)) : Option Json :=
  Json.lookup? name (overrides.filter fun o => isLaid o.2)

variable {name : String} {fields overrides : List (String × Json)}

theorem overlay_cons_of_ne_null {value : Json} (h : value ≠ .null) :
    overlay fields ((name, value) :: overrides) =
      overlay (Json.setField fields name value) overrides := by
  cases value with
  | null => exact absurd rfl h
  | _ => rfl

theorem isLaid_eq_true {value : Json} (h : value ≠ .null) : isLaid value = true := by
  cases value with
  | null => exact absurd rfl h
  | _ => rfl

/-- A field holds what is laid over it, or else what it held. -/
theorem lookup?_overlay (name : String) (fields overrides : List (String × Json)) :
    Json.lookup? name (overlay fields overrides) =
      (override? name overrides).or (Json.lookup? name fields) := by
  -- What the first override changes is what the others are laid over.
  induction overrides generalizing fields with
  | nil => rfl
  | cons o rest ih =>
    obtain ⟨key, value⟩ := o
    by_cases hnull : value = .null
    · subst hnull
      exact ih fields
    · have hlaid : override? name ((key, value) :: rest) =
          (override? name rest).or (if key = name then some value else none) := by
        unfold override?
        rw [List.filter_cons, if_pos (isLaid_eq_true hnull), Json.lookup?_cons]
      rw [overlay_cons_of_ne_null hnull, ih, Json.lookup?_setField, hlaid, Option.or_assoc]
      by_cases hkey : key = name
      · simp [hkey]
      · simp [hkey, Ne.symm hkey]

/-! ## What overrides touch -/

section Touching

variable {ρ : Type}

/-- An override is refused: given alone, its field does not take it. -/
def Refuses (check : List (String × Json) → Checked ρ) (overrides : List (String × Json))
    (name : String) : Prop :=
  ∃ value, override? name overrides = some value ∧ ¬ (check [(name, value)]).Accepts

/-- A problem is all that is wrong with an override, and is found at its field. -/
def Reports (check : List (String × Json) → Checked ρ) (overrides : List (String × Json))
    (name : String) (p : Problem) : Prop :=
  p.way = [.field name] ∧
    ∃ value, override? name overrides = some value ∧ check [(name, value)] = .failed [p]

/-- Overrides touch the fields that they are laid over, and no others. The outcome is a failure
exactly where one of them is refused, and then it reports each refused one once, in the order of the
fields. Otherwise it holds what each override gives alone, and what the base holds elsewhere. -/
structure TouchesOnly (check : List (String × Json) → Checked ρ)
    (write : ρ → List (String × Json)) (base : ρ) (overrides : List (String × Json))
    (outcome : Checked ρ) : Prop where
  refused_iff : (∃ ps, outcome = .failed ps) ↔ ∃ name, Refuses check overrides name
  reported : ∀ ps, outcome = .failed ps → ∃ names, names.Sublist ((write base).map Prod.fst) ∧
    (∀ name, name ∈ names ↔ Refuses check overrides name) ∧
    List.Forall₂ (Reports check overrides) names ps
  overridden : ∀ r, outcome = .ok r → ∀ name value, override? name overrides = some value →
    ∃ alone, check [(name, value)] = .ok alone ∧
      Json.lookup? name (write r) = Json.lookup? name (write alone)
  kept : ∀ r, outcome = .ok r → ∀ name, override? name overrides = none →
    Json.lookup? name (write r) = Json.lookup? name (write base)

/-! ## Fields that are given alone -/

/-- Records that need no field, and whose fields are checked as wholes. -/
structure IsFlat (schema : List (Field ρ)) : Prop where
  optional : ∀ f ∈ schema, f.default?.isSome
  whole : ∀ f ∈ schema, IsWhole f.check

variable {schema : List (Field ρ)} {check : List (String × Json) → Checked ρ}
  {write : ρ → List (String × Json)} {f g : Field ρ} {value : Json}

theorem Field.read_alone (f : Field ρ) (value : Json) :
    f.read [(f.name, value)] = (f.check value).within (.field f.name) :=
  read_of_some (by rw [Json.lookup?_singleton, if_pos rfl])

theorem IsFlat.accepts_elsewhere (h : IsFlat schema) (hf : f ∈ schema) (hname : f.name ≠ name) :
    (f.read [(name, value)]).Accepts :=
  Field.read_of_none (by rw [Json.lookup?_singleton, if_neg (Ne.symm hname)]) (h.optional f hf)

theorem Describes.eq_of_name (h : Describes schema check write) (hf : f ∈ schema) (hg : g ∈ schema)
    (hname : f.name = g.name) : f = g :=
  List.inj_on_of_nodup_map h.distinct hf hg hname

/-- A field that is given alone is taken where its own check takes it. -/
theorem Describes.accepts_alone_iff (h : Describes schema check write) (hflat : IsFlat schema)
    (hf : f ∈ schema) : (check [(f.name, value)]).Accepts ↔ (f.check value).Accepts := by
  rw [h.accepts_iff, ← Checked.accepts_within, ← f.read_alone]
  constructor
  · exact fun hall => hall f hf
  · intro hown g hg
    by_cases hname : g.name = f.name
    · rwa [h.eq_of_name hg hf hname]
    · exact hflat.accepts_elsewhere hg hname

/-- Only fields that the record has refuse anything. -/
theorem Describes.exists_of_refuses (h : Describes schema check write) (hflat : IsFlat schema)
    (hrefused : Refuses check overrides name) : ∃ f ∈ schema, f.name = name := by
  obtain ⟨value, -, hnot⟩ := hrefused
  by_contra hunknown
  push Not at hunknown
  refine hnot (h.accepts_iff.mpr fun f hf => ?_)
  exact hflat.accepts_elsewhere hf (hunknown f hf)

theorem Checked.Accepts.problems_eq {α : Type} {x : Checked α} (h : x.Accepts) :
    x.problems = [] := by
  obtain ⟨a, rfl⟩ := h
  rfl

theorem flatMap_of_only {α β : Type*} {l : List α} {k : α → List β} {a : α} (hnodup : l.Nodup)
    (ha : a ∈ l) (h : ∀ b ∈ l, b ≠ a → k b = []) : l.flatMap k = k a := by
  obtain ⟨before, after, rfl⟩ := List.append_of_mem ha
  rw [List.nodup_middle, List.nodup_cons, List.mem_append, not_or] at hnodup
  have hbefore : before.flatMap k = [] := List.flatMap_eq_nil_iff.mpr fun b hb =>
    h b (List.mem_append_left _ hb) fun heq => hnodup.1.1 (heq ▸ hb)
  have hafter : after.flatMap k = [] := List.flatMap_eq_nil_iff.mpr fun b hb =>
    h b (List.mem_append_right _ (List.mem_cons_of_mem _ hb)) fun heq => hnodup.1.2 (heq ▸ hb)
  rw [List.flatMap_append, List.flatMap_cons, hbefore, hafter, List.nil_append, List.append_nil]

/-- A field that is given alone is all that is reported. -/
theorem Describes.problems_alone (h : Describes schema check write) (hflat : IsFlat schema)
    (hf : f ∈ schema) :
    (check [(f.name, value)]).problems = ((f.check value).within (.field f.name)).problems := by
  have hnodup : schema.Nodup := h.distinct.of_map _
  rw [h.problems_eq, flatMap_of_only hnodup hf, f.read_alone]
  intro g hg hne
  refine (hflat.accepts_elsewhere hg fun hname => hne ?_).problems_eq
  exact h.eq_of_name hg hf hname

/-! ## Fields under overrides -/

variable {given : List (String × Json)} {base : ρ}

theorem Field.read_overlaid (hvalue : override? f.name overrides = some value) :
    f.read (overlay fields overrides) = (f.check value).within (.field f.name) :=
  Field.read_of_some (by rw [lookup?_overlay, hvalue, Option.some_or])

/-- A field that no override is laid over holds what the base holds. -/
theorem Describes.read_kept (h : Describes schema check write) (hbase : check given = .ok base)
    (hf : f ∈ schema) (hnone : override? f.name overrides = none) :
    f.read (overlay (write base) overrides) = .ok (f.get base) := by
  have hlookup : Json.lookup? f.name (overlay (write base) overrides) =
      some (f.write (f.get base)) := by
    rw [lookup?_overlay, hnone, Option.none_or, h.lookup?_write base hf]
  rw [Field.read_of_some hlookup, Checked.within_eq_ok_iff]
  exact h.check_write_get hbase hf

theorem Describes.refuses_iff (h : Describes schema check write) (hflat : IsFlat schema)
    (hbase : check given = .ok base) (hf : f ∈ schema) :
    Refuses check overrides f.name ↔ ¬ (f.read (overlay (write base) overrides)).Accepts := by
  unfold Refuses
  cases hlaid : override? f.name overrides with
  | none => simp [h.read_kept hbase hf hlaid, Checked.Accepts]
  | some value =>
    rw [Field.read_overlaid hlaid, Checked.accepts_within, ← h.accepts_alone_iff hflat hf]
    simp

/-- A field under overrides reports nothing, or one problem for an override that is refused. -/
theorem Describes.problems_overlaid (h : Describes schema check write) (hflat : IsFlat schema)
    (hbase : check given = .ok base) (overrides : List (String × Json)) (hf : f ∈ schema) :
    (f.read (overlay (write base) overrides)).problems = [] ∧ ¬ Refuses check overrides f.name ∨
      ∃ p, (f.read (overlay (write base) overrides)).problems = [p] ∧
        Refuses check overrides f.name ∧ Reports check overrides f.name p := by
  by_cases hrefused : Refuses check overrides f.name
  · obtain ⟨value, hvalue, hnot⟩ := id hrefused
    rw [h.accepts_alone_iff hflat hf] at hnot
    obtain ⟨cause, hcause⟩ := (hflat.whole f hf value).resolve_left hnot
    have hproblems : ((f.check value).within (.field f.name)).problems =
        [⟨[.field f.name], cause⟩] := by
      rw [hcause]
      rfl
    refine .inr ⟨⟨[.field f.name], cause⟩, ?_, hrefused, rfl, value, hvalue, ?_⟩
    · rw [Field.read_overlaid hvalue, hproblems]
    · exact Checked.eq_failed_of_problems ((h.problems_alone hflat hf).trans hproblems)
  · have haccepts := (h.refuses_iff hflat hbase hf).not_left.mp hrefused
    exact .inl ⟨haccepts.problems_eq, hrefused⟩

theorem forall₂_reported {α : Type*} {report : String → Problem → Prop} (key : α → String)
    {problems : α → List Problem} {l : List α}
    (h : ∀ a ∈ l, problems a = [] ∨ ∃ p, problems a = [p] ∧ report (key a) p) :
    List.Forall₂ report ((l.filter (problems · ≠ [])).map key) (l.flatMap problems) := by
  induction l with
  | nil => exact .nil
  | cons a rest ih =>
    obtain ⟨hfirst, hrest⟩ := List.forall_mem_cons.mp h
    rw [List.flatMap_cons]
    rcases hfirst with hnone | ⟨p, hp, hreport⟩
    · rw [List.filter_cons_of_neg (by simp [hnone]), hnone]
      exact ih hrest
    · rw [List.filter_cons_of_pos (by simp [hp]), hp]
      exact .cons hreport (ih hrest)

section

variable (h : Describes schema check write) (hflat : IsFlat schema) (hbase : check given = .ok base)
include h hflat hbase

/-- The overridden record is refused exactly where an override is. -/
theorem Describes.failed_iff : (∃ ps, check (overlay (write base) overrides) = .failed ps) ↔
    ∃ name, Refuses check overrides name := by
  rw [← Checked.not_accepts_iff, h.accepts_iff]
  push Not
  constructor
  · rintro ⟨f, hf, hnot⟩
    exact ⟨f.name, (h.refuses_iff hflat hbase hf).mpr hnot⟩
  · rintro ⟨name, hrefused⟩
    obtain ⟨f, hf, rfl⟩ := h.exists_of_refuses hflat hrefused
    exact ⟨f, hf, (h.refuses_iff hflat hbase hf).mp hrefused⟩

/-- Each override that is refused is reported once, in the order of the fields. -/
theorem Describes.exists_reported {ps : List Problem}
    (hfailed : check (overlay (write base) overrides) = .failed ps) :
    ∃ names, names.Sublist (schema.map Field.name) ∧
      (∀ name, name ∈ names ↔ Refuses check overrides name) ∧
      List.Forall₂ (Reports check overrides) names ps := by
  have hfields := fun f hf => h.problems_overlaid (f := f) hflat hbase overrides hf
  have hps : schema.flatMap (fun f => (f.read (overlay (write base) overrides)).problems) = ps := by
    rw [← h.problems_eq, hfailed]
    rfl
  have hreported := forall₂_reported Field.name fun f hf =>
    (hfields f hf).imp And.left fun ⟨p, hp, hreport⟩ => ⟨p, hp, hreport.2⟩
  rw [hps] at hreported
  -- The names that are listed are those of the fields with something to report.
  refine ⟨_, List.filter_sublist.map _, fun name => ?_, hreported⟩
  simp only [List.mem_map, List.mem_filter, decide_eq_true_eq]
  constructor
  · rintro ⟨f, ⟨hf, hsome⟩, rfl⟩
    rcases hfields f hf with ⟨hnone, -⟩ | ⟨p, -, hrefused, -⟩
    · exact absurd hnone hsome
    · exact hrefused
  · intro hrefused
    obtain ⟨f, hf, rfl⟩ := h.exists_of_refuses hflat hrefused
    rcases hfields f hf with ⟨-, hnot⟩ | ⟨p, hp, -, -⟩
    · exact absurd hrefused hnot
    · exact ⟨f, ⟨hf, by rw [hp]; exact List.cons_ne_nil _ _⟩, rfl⟩

/-- Overrides of a checked record touch their own fields alone. -/
theorem Describes.touchesOnly (overrides : List (String × Json)) :
    TouchesOnly check write base overrides (check (overlay (write base) overrides)) where
  refused_iff := h.failed_iff hflat hbase
  reported ps hfailed := by
    rw [h.names_eq]
    exact h.exists_reported hflat hbase hfailed
  overridden r hr name value hvalue := by
    have hnone : ¬ Refuses check overrides name := fun hrefused => by
      obtain ⟨ps, hps⟩ := (h.failed_iff hflat hbase).mpr ⟨name, hrefused⟩
      rw [hr] at hps
      cases hps
    obtain ⟨alone, halone⟩ : (check [(name, value)]).Accepts := by
      by_contra hnot
      exact hnone ⟨value, hvalue, hnot⟩
    refine ⟨alone, halone, h.lookup?_write_congr fun f hf hname => ?_⟩
    subst hname
    have hheld := h.eq_ok_iff.mp hr f hf
    rw [Field.read_overlaid hvalue, ← f.read_alone, h.eq_ok_iff.mp halone f hf] at hheld
    exact (Checked.ok.inj hheld).symm
  kept r hr name hnone := by
    refine h.lookup?_write_congr fun f hf hname => ?_
    subst hname
    have hheld := h.eq_ok_iff.mp hr f hf
    rw [h.read_kept hbase hf hnone] at hheld
    exact (Checked.ok.inj hheld).symm

end

end Touching

/-! ## Styles and machines -/

theorem Style.isFlat : IsFlat schema where
  optional := by simp [schema]
  whole := by
    simp only [schema, List.forall_mem_cons]
    exact ⟨(isWhole_scalar _).nullable, (isWhole_scalar _).nullable, isWhole_scalar _,
      isWhole_scalar _, isWhole_scalar _, isWhole_scalar _, (isWhole_scalar _).nullable,
      isWhole_scalar _, isWhole_scalar _, by simp⟩

theorem Machine.isFlat : IsFlat schema where
  optional := by simp [schema]
  whole := by
    simp only [schema, List.forall_mem_cons]
    exact ⟨isWhole_scalar _, isWhole_scalar _, isWhole_scalar _, isWhole_scalar _,
      isWhole_scalar _, isWhole_scalar _, by simp⟩

/-- Whatever is checked is taken again as it is written, as the same record. -/
def Stays {ρ : Type} (check : List (String × Json) → Checked ρ)
    (write : ρ → List (String × Json)) : Prop :=
  ∀ given r, check given = .ok r → check (write r) = .ok r

/-- Settings that were checked stay what they are: written out and checked again, they are the same
settings. So overrides of a style or a machine touch only the fields that they are laid over. -/
theorem checked_settings_stay_and_overrides_touch_their_fields :
    Stays Style.check Style.fields ∧ Stays Machine.check Machine.fields ∧
      Stays FontAccess.check FontAccess.fields ∧ Stays Logging.check Logging.fields ∧
      Stays Application.check Application.fields ∧ Stays Profile.check Profile.fields ∧
      (∀ given base overrides, Style.check given = .ok base →
        TouchesOnly Style.check Style.fields base overrides (base.override overrides)) ∧
      ∀ given base overrides, Machine.check given = .ok base →
        TouchesOnly Machine.check Machine.fields base overrides (base.override overrides) :=
  ⟨fun _ _ => Style.describes.check_write, fun _ _ => Machine.describes.check_write,
    fun _ _ => FontAccess.describes.check_write, fun _ _ => Logging.describes.check_write,
    fun _ _ => Application.describes.check_write, fun _ _ => Profile.describes.check_write,
    fun _ _ overrides hbase => Style.describes.touchesOnly Style.isFlat hbase overrides,
    fun _ _ overrides hbase => Machine.describes.touchesOnly Machine.isFlat hbase overrides⟩

/-- A style with a font file, a size, a margin and a line height of its own. -/
def largeStyle : Style := { Style.standard with
  fontPath := some ⟨.working, [['a'], ['b'], ['c']]⟩
  fontSize := ⟨10.5, by decide, by decide⟩
  marginX := ⟨1, by decide⟩
  lineHeight := some ⟨3, by decide, by decide⟩ }

/-- A style in loose spellings stays as it was read. An override that its field does not take is
refused, one that it takes is held, and a null leaves the field as it was. -/
theorem a_style_in_loose_spellings_stays :
    Style.check [("font_path", .str "a//b/./c/"), ("font_size", .str "1_0.5"),
        ("margin_x", .bool true), ("line_height", .str " +3. ")] = .ok largeStyle ∧
      Style.check largeStyle.fields = .ok largeStyle ∧
      (∃ ps, largeStyle.override [("font", .integer 1), ("font_size", .integer 2)] = .failed ps) ∧
      ∃ r alone, largeStyle.override [("font_path", .null), ("font_size", .str "2e0")] = .ok r ∧
        Style.check [("font_size", .str "2e0")] = .ok alone ∧
        Json.lookup? "font_size" r.fields = Json.lookup? "font_size" alone.fields ∧
        Json.lookup? "font_path" r.fields = Json.lookup? "font_path" largeStyle.fields := by
  obtain ⟨hstays, -, -, -, -, -, htouches, -⟩ :=
    checked_settings_stay_and_overrides_touch_their_fields
  have hread : Style.check [("font_path", .str "a//b/./c/"), ("font_size", .str "1_0.5"),
      ("margin_x", .bool true), ("line_height", .str " +3. ")] = .ok largeStyle := by decide +kernel
  have hrefused :=
    (htouches _ _ [("font", .integer 1), ("font_size", .integer 2)] hread).refused_iff
  have hheld := htouches _ _ [("font_path", .null), ("font_size", .str "2e0")] hread
  obtain ⟨r, hr⟩ :
      (largeStyle.override [("font_path", .null), ("font_size", .str "2e0")]).Accepts := by
    decide +kernel
  obtain ⟨alone, halone, hsize⟩ := hheld.overridden r hr "font_size" (.str "2e0") rfl
  refine ⟨hread, hstays _ _ hread, hrefused.mpr ⟨"font", .integer 1, rfl, by decide +kernel⟩, r,
    alone, hr, halone, hsize, hheld.kept r hr "font_path" rfl⟩

end PenPlot.Settings
