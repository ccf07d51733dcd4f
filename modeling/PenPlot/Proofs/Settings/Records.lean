-- Records by their fields. Every kind of record has a list of fields, each with its name, its check
-- and the way it is written; checking and writing a record is checking and writing these. So a
-- record that was checked is taken again as it is written, as the same record.
import PenPlot.Proofs.Json.Fields
import PenPlot.Proofs.Settings.Checks
import PenPlot.Settings.Application
import PenPlot.Settings.Profile

namespace PenPlot.Settings

/-! ## Fields -/

/-- A field of the records of one kind. Where it has no default it has to be there. -/
structure Field (ρ : Type) where
  {Value : Type}
  name : String
  default? : Option Value
  check : Check Value
  get : ρ → Value
  write : Value → Json

variable {ρ : Type} {f : Field ρ} {fields : List (String × Json)}

/-- The value of a field among the fields that are given. -/
def Field.read (f : Field ρ) (fields : List (String × Json)) : Checked f.Value :=
  match f.default? with
  | some default => optionalField f.name default f.check fields
  | none => requiredField f.name f.check fields

theorem Field.read_of_some {value : Json} (h : Json.lookup? f.name fields = some value) :
    f.read fields = (f.check value).within (.field f.name) := by
  unfold read optionalField requiredField
  rw [h]
  cases f.default? <;> rfl

theorem Field.read_of_none (h : Json.lookup? f.name fields = none)
    (hdefault : f.default?.isSome) : (f.read fields).Accepts := by
  obtain ⟨default, hdefault⟩ := Option.isSome_iff_exists.mp hdefault
  unfold read optionalField
  rw [h, hdefault]
  exact ⟨default, rfl⟩

/-- What a field takes it takes again as it is written, and its default is one of these values. -/
structure Field.IsSettled (f : Field ρ) : Prop where
  given : Settles f.check f.write
  default : ∀ value ∈ f.default?, ∃ j, f.check j = .ok value

theorem Field.IsSettled.check_write {value : f.Value} (h : f.IsSettled)
    (hread : f.read fields = .ok value) : f.check (f.write value) = .ok value := by
  cases hlookup : Json.lookup? f.name fields with
  | some j =>
    rw [read_of_some hlookup, Checked.within_eq_ok_iff] at hread
    exact h.given j value hread
  | none =>
    unfold read optionalField requiredField at hread
    rw [hlookup] at hread
    cases hdefault : f.default? with
    | some default =>
      rw [hdefault] at hread
      obtain ⟨j, hj⟩ := h.default value (hdefault.trans (congrArg some (Checked.ok.inj hread)))
      exact h.given j value hj
    | none =>
      rw [hdefault] at hread
      cases hread

section Kinds

variable {α : Type} {name : String} {default : α}

theorem isSettled_scalar {read : Json → Except Cause α} {get : ρ → α} {write : α → Json}
    (h : ∀ a, read (write a) = .ok a) :
    (⟨name, some default, scalar read, get, write⟩ : Field ρ).IsSettled where
  given := settles_scalar h
  default _ _ := ⟨_, scalar_eq_ok_iff.mpr (h _)⟩

theorem isSettled_nullable {check : Check α} {get : ρ → Option α} {write : α → Json}
    (h : Settles check write) (hwrite : ∀ a, write a ≠ .null) :
    (⟨name, some none, nullable check, get, orNull write⟩ : Field ρ).IsSettled where
  given := settles_nullable h hwrite
  default _ hvalue := ⟨.null, congrArg Checked.ok (Option.some.inj hvalue)⟩

end Kinds

/-! ## Records -/

/-- A kind of record is checked and written field by field. No two of its fields have one name, and
each of them settles. -/
structure Describes (schema : List (Field ρ)) (check : List (String × Json) → Checked ρ)
    (write : ρ → List (String × Json)) : Prop where
  eq_ok_iff : ∀ {given r}, check given = .ok r ↔ ∀ f ∈ schema, f.read given = .ok (f.get r)
  accepts_iff : ∀ {given}, (check given).Accepts ↔ ∀ f ∈ schema, (f.read given).Accepts
  problems_eq : ∀ given, (check given).problems = schema.flatMap fun f => (f.read given).problems
  write_eq : ∀ r, write r = schema.map fun f => (f.name, f.write (f.get r))
  distinct : (schema.map Field.name).Nodup
  settled : ∀ f ∈ schema, f.IsSettled

section

variable {schema : List (Field ρ)} {check : List (String × Json) → Checked ρ}
  {write : ρ → List (String × Json)} {given : List (String × Json)} {r : ρ}

theorem Describes.names_eq (h : Describes schema check write) (r : ρ) :
    (write r).map Prod.fst = schema.map Field.name := by
  rw [h.write_eq, List.map_map]
  rfl

theorem Describes.lookup?_write (h : Describes schema check write) (r : ρ) (hf : f ∈ schema) :
    Json.lookup? f.name (write r) = some (f.write (f.get r)) := by
  refine Json.lookup?_of_mem ?_ ?_
  · rw [h.names_eq]
    exact h.distinct
  · rw [h.write_eq]
    exact List.mem_map.mpr ⟨f, hf, rfl⟩

/-- Records that hold the same in the field of a name are written alike there. -/
theorem Describes.lookup?_write_congr (h : Describes schema check write) {name : String} {r r' : ρ}
    (hsame : ∀ f ∈ schema, f.name = name → f.get r = f.get r') :
    Json.lookup? name (write r) = Json.lookup? name (write r') := by
  by_cases hname : ∃ f ∈ schema, f.name = name
  · obtain ⟨f, hf, rfl⟩ := hname
    rw [h.lookup?_write r hf, h.lookup?_write r' hf, hsame f hf rfl]
  · have hnone : ∀ r, Json.lookup? name (write r) = none := by
      intro r
      rw [Json.lookup?_eq_none_iff, h.write_eq, List.forall_mem_map]
      exact fun f hf heq => hname ⟨f, hf, heq⟩
    rw [hnone, hnone]

theorem Describes.check_write_get (h : Describes schema check write) (hr : check given = .ok r)
    (hf : f ∈ schema) : f.check (f.write (f.get r)) = .ok (f.get r) :=
  (h.settled f hf).check_write (h.eq_ok_iff.mp hr f hf)

/-- A checked record is taken again as it is written, as the same record. -/
theorem Describes.check_write (h : Describes schema check write) (hr : check given = .ok r) :
    check (write r) = .ok r := by
  refine h.eq_ok_iff.mpr fun f hf => ?_
  rw [Field.read_of_some (h.lookup?_write r hf), Checked.within_eq_ok_iff]
  exact h.check_write_get hr hf

/-- A record within another one is written as an object. -/
theorem Describes.isSettled {σ : Type} {name label : String} {default : ρ} {get : σ → ρ}
    (h : Describes schema check write) (hdefault : check [] = .ok default) :
    (⟨name, some default, record label check, get, fun r => .obj (write r)⟩ :
      Field σ).IsSettled where
  given := settles_record fun _ _ => h.check_write
  default _ hvalue := ⟨.obj [], hdefault.trans (congrArg _ (Option.some.inj hvalue))⟩

end

/-! ## The kinds of records -/

/-- The fields of a style. -/
def Style.schema : List (Field Style) :=
  let start := Style.standard
  [⟨"font", some start.font, nullable (scalar readText), font, orNull .str⟩,
    ⟨"font_path", some start.fontPath, nullable (scalar readPath), fontPath,
      orNull fun p => .str p.toString⟩,
    ⟨"font_size", some start.fontSize, scalar readPositive, fontSize, fun x => .real x.value⟩,
    ⟨"margin_x", some start.marginX, scalar readFinite, marginX, fun x => .real x.value⟩,
    ⟨"margin_y", some start.marginY, scalar readFinite, marginY, fun x => .real x.value⟩,
    ⟨"line_height_factor", some start.lineHeightFactor, scalar readPositive, lineHeightFactor,
      fun x => .real x.value⟩,
    ⟨"line_height", some start.lineHeight, nullable (scalar readPositive), lineHeight,
      orNull fun x => .real x.value⟩,
    ⟨"letter_spacing", some start.letterSpacing, scalar readFinite, letterSpacing,
      fun x => .real x.value⟩,
    ⟨"advance_scale", some start.advanceScale, scalar readShare, advanceScale,
      fun x => .real x.value⟩]

theorem Style.describes : Describes schema Style.check Style.fields where
  eq_ok_iff {_ s} := by
    obtain ⟨a1, a2, a3, a4, a5, a6, a7, a8, a9⟩ := s
    simp only [Style.check, Checked.seq_eq_ok_iff, Checked.map_eq_ok_iff, mk.injEq, ↓existsAndEq,
      exists_and_left, and_assoc, and_true, schema, Field.read, List.forall_mem_cons,
      List.not_mem_nil, false_imp_iff, implies_true]
  accepts_iff := by simp [Style.check, schema, Field.read, and_assoc]
  problems_eq _ := by simp [Style.check, schema, Field.read]
  write_eq _ := rfl
  distinct := by decide
  settled := by
    simp only [schema, List.forall_mem_cons]
    exact ⟨isSettled_nullable (settles_scalar readText_str) (by simp),
      isSettled_nullable settles_readPath (by simp), isSettled_scalar readPositive_value,
      isSettled_scalar readFinite_value, isSettled_scalar readFinite_value,
      isSettled_scalar readPositive_value,
      isSettled_nullable (settles_scalar readPositive_value) (by simp),
      isSettled_scalar readFinite_value, isSettled_scalar readShare_value, by simp⟩

/-- The fields of a machine. -/
def Machine.schema : List (Field Machine) :=
  let start := Machine.standard
  [⟨"lift_height", some start.liftHeight, scalar readFinite, liftHeight, fun x => .real x.value⟩,
    ⟨"draw_depth", some start.drawDepth, scalar readFinite, drawDepth, fun x => .real x.value⟩,
    ⟨"feed_rate", some start.feedRate, scalar readCount, feedRate, fun n => .integer n.value⟩,
    ⟨"curve_steps", some start.curveSteps, scalar (readBetween 1 1000), curveSteps,
      fun n => .integer n.value⟩,
    ⟨"coordinate_precision", some start.coordinatePrecision, scalar (readBetween 0 6),
      coordinatePrecision, fun n => .integer n.value⟩,
    ⟨"close_contours", some start.closeContours, scalar readTruth, closeContours, .bool⟩]

theorem Machine.describes : Describes schema Machine.check Machine.fields where
  eq_ok_iff {_ m} := by
    obtain ⟨a1, a2, a3, a4, a5, a6⟩ := m
    simp only [Machine.check, Checked.seq_eq_ok_iff, Checked.map_eq_ok_iff, mk.injEq, ↓existsAndEq,
      exists_and_left, and_assoc, and_true, schema, Field.read, List.forall_mem_cons,
      List.not_mem_nil, false_imp_iff, implies_true]
  accepts_iff := by simp [Machine.check, schema, Field.read, and_assoc]
  problems_eq _ := by simp [Machine.check, schema, Field.read]
  write_eq _ := rfl
  distinct := by decide
  settled := by
    simp only [schema, List.forall_mem_cons]
    exact ⟨isSettled_scalar readFinite_value, isSettled_scalar readFinite_value,
      isSettled_scalar readCount_value, isSettled_scalar readBetween_value,
      isSettled_scalar readBetween_value, isSettled_scalar readTruth_bool, by simp⟩

/-- The fields of the font access. -/
def FontAccess.schema : List (Field FontAccess) :=
  let start := FontAccess.standard
  [⟨"font_dir", some start.fontDir, scalar readPath, fontDir, fun p => .str p.toString⟩,
    ⟨"load_timeout", some start.loadTimeout, scalar readDuration, loadTimeout,
      fun x => .real x.value⟩,
    ⟨"cache_fonts", some start.cacheFonts, scalar readTruth, cacheFonts, .bool⟩]

theorem FontAccess.describes : Describes schema FontAccess.check FontAccess.fields where
  eq_ok_iff {_ a} := by
    obtain ⟨a1, a2, a3⟩ := a
    simp only [FontAccess.check, Checked.seq_eq_ok_iff, Checked.map_eq_ok_iff, mk.injEq,
      ↓existsAndEq, exists_and_left, and_assoc, and_true, schema, Field.read, List.forall_mem_cons,
      List.not_mem_nil, false_imp_iff, implies_true]
  accepts_iff := by simp [FontAccess.check, schema, Field.read, and_assoc]
  problems_eq _ := by simp [FontAccess.check, schema, Field.read]
  write_eq _ := rfl
  distinct := by decide
  settled := by
    simp only [schema, List.forall_mem_cons]
    exact ⟨⟨settles_readPath, fun _ hvalue => ⟨.str "fonts", congrArg _ (Option.some.inj hvalue)⟩⟩,
      isSettled_scalar readDuration_value, isSettled_scalar readTruth_bool, by simp⟩

/-- The fields of the logging settings. -/
def Logging.schema : List (Field Logging) :=
  let start := Logging.standard
  [⟨"log_file", some start.logFile, nullable (scalar readPath), logFile,
      orNull fun p => .str p.toString⟩,
    ⟨"log_level", some start.logLevel, scalar readText, logLevel, .str⟩,
    ⟨"file_log_level", some start.fileLogLevel, scalar readText, fileLogLevel, .str⟩]

theorem Logging.describes : Describes schema Logging.check Logging.fields where
  eq_ok_iff {_ l} := by
    obtain ⟨a1, a2, a3⟩ := l
    simp only [Logging.check, Checked.seq_eq_ok_iff, Checked.map_eq_ok_iff, mk.injEq, ↓existsAndEq,
      exists_and_left, and_assoc, and_true, schema, Field.read, List.forall_mem_cons,
      List.not_mem_nil, false_imp_iff, implies_true]
  accepts_iff := by simp [Logging.check, schema, Field.read, and_assoc]
  problems_eq _ := by simp [Logging.check, schema, Field.read]
  write_eq _ := rfl
  distinct := by decide
  settled := by
    simp only [schema, List.forall_mem_cons]
    exact ⟨isSettled_nullable settles_readPath (by simp), isSettled_scalar readText_str,
      isSettled_scalar readText_str, by simp⟩

/-- The fields of the application's settings. -/
def Application.schema : List (Field Application) :=
  let start := Application.standard
  [⟨"machine", some start.machine, record "MachineProfile" Machine.check, machine,
      fun m => .obj m.fields⟩,
    ⟨"font", some start.font, record "FontConfig" FontAccess.check, font, fun a => .obj a.fields⟩,
    ⟨"logging", some start.logging, record "LoggingConfig" Logging.check, logging,
      fun l => .obj l.fields⟩]

theorem Application.describes : Describes schema Application.check Application.fields where
  eq_ok_iff {_ a} := by
    obtain ⟨a1, a2, a3⟩ := a
    simp only [Application.check, Checked.seq_eq_ok_iff, Checked.map_eq_ok_iff, mk.injEq,
      ↓existsAndEq, exists_and_left, and_assoc, and_true, schema, Field.read, List.forall_mem_cons,
      List.not_mem_nil, false_imp_iff, implies_true]
  accepts_iff := by simp [Application.check, schema, Field.read, and_assoc]
  problems_eq _ := by simp [Application.check, schema, Field.read]
  write_eq _ := rfl
  distinct := by decide
  settled := by
    simp only [schema, List.forall_mem_cons]
    exact ⟨Machine.describes.isSettled rfl, FontAccess.describes.isSettled rfl,
      Logging.describes.isSettled rfl, by simp⟩

/-- The fields of a profile. -/
def Profile.schema : List (Field Profile) :=
  [⟨"name", none, scalar readText, name, .str⟩,
    ⟨"style", some .standard, record "StyleProfile" Style.check, style, fun s => .obj s.fields⟩,
    ⟨"machine", some .standard, record "MachineProfile" Machine.check, machine,
      fun m => .obj m.fields⟩]

theorem Profile.describes : Describes schema Profile.check Profile.fields where
  eq_ok_iff {_ p} := by
    obtain ⟨a1, a2, a3⟩ := p
    simp only [Profile.check, Checked.seq_eq_ok_iff, Checked.map_eq_ok_iff, mk.injEq, ↓existsAndEq,
      exists_and_left, and_assoc, and_true, schema, Field.read, List.forall_mem_cons,
      List.not_mem_nil, false_imp_iff, implies_true]
  accepts_iff := by simp [Profile.check, schema, Field.read, and_assoc]
  problems_eq _ := by simp [Profile.check, schema, Field.read]
  write_eq _ := rfl
  distinct := by decide
  settled := by
    simp only [schema, List.forall_mem_cons]
    exact ⟨⟨settles_scalar readText_str, by simp⟩, Style.describes.isSettled rfl,
      Machine.describes.isSettled rfl, by simp⟩

end PenPlot.Settings
