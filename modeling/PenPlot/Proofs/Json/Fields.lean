-- The laws of looking up fields. The last field with a name counts, so of two rows of fields the
-- second one is asked first; and a field that is set is found under its name alone.
import Mathlib.Data.List.Basic
import PenPlot.Json.Basic

namespace PenPlot.Json

variable {name other : String} {value : Json} {fields : List (String × Json)}

theorem lookup?_append (name : String) (front back : List (String × Json)) :
    lookup? name (front ++ back) = (lookup? name back).or (lookup? name front) := by
  unfold lookup?
  rw [List.reverse_append, List.find?_append, Option.map_or]

theorem lookup?_singleton (name : String) (f : String × Json) :
    lookup? name [f] = if f.1 = name then some f.2 else none := by
  by_cases h : f.1 = name <;> simp [lookup?, h]

theorem lookup?_cons (name : String) (f : String × Json) (rest : List (String × Json)) :
    lookup? name (f :: rest) =
      (lookup? name rest).or (if f.1 = name then some f.2 else none) := by
  rw [← List.singleton_append, lookup?_append, lookup?_singleton]

theorem lookup?_eq_none_iff : lookup? name fields = none ↔ ∀ f ∈ fields, f.1 ≠ name := by
  simp [lookup?]

/-- Where no name occurs twice, each field is found. -/
theorem lookup?_of_mem (hdistinct : (fields.map Prod.fst).Nodup) (h : (name, value) ∈ fields) :
    lookup? name fields = some value := by
  induction fields with
  | nil => exact absurd h List.not_mem_nil
  | cons f rest ih =>
    obtain ⟨hfirst, hrest⟩ := List.nodup_cons.mp hdistinct
    rw [lookup?_cons]
    rcases List.mem_cons.mp h with rfl | hmem
    · have hnone : lookup? name rest = none := lookup?_eq_none_iff.mpr fun g hg hname =>
        hfirst (List.mem_map.mpr ⟨g, hg, hname⟩)
      rw [hnone, Option.none_or, if_pos rfl]
    · rw [ih hrest hmem, Option.some_or]

/-- A value that is put in the place of another is found there, and nowhere else. -/
theorem lookup?_replaced (name other : String) (value : Json) (fields : List (String × Json)) :
    lookup? other (fields.map fun f => if f.1 == name then (name, value) else f) =
      if other = name then (lookup? name fields).map fun _ => value else lookup? other fields := by
  induction fields with
  | nil => simp [lookup?]
  | cons f rest ih =>
    rw [List.map_cons, lookup?_cons, ih, lookup?_cons name, lookup?_cons other]
    by_cases hother : other = name
    · subst hother
      by_cases hf : f.1 = other <;> cases lookup? other rest <;> simp [hf]
    · by_cases hf : f.1 = name
      · simp [hf, hother, Ne.symm hother]
      · simp [hf, hother]

theorem any_eq : (fields.any fun f => f.1 == name) = (lookup? name fields).isSome := by
  rw [Bool.eq_iff_iff, Option.isSome_iff_ne_none, ne_eq, lookup?_eq_none_iff, List.any_eq_true]
  simp only [beq_iff_eq, not_forall, not_not, exists_prop]

theorem lookup?_setField (fields : List (String × Json)) (name other : String) (value : Json) :
    lookup? other (setField fields name value) =
      if other = name then some value else lookup? other fields := by
  unfold setField
  rw [any_eq]
  -- A name that is there has its value replaced; another one is put at the end.
  cases hheld : lookup? name fields with
  | some held => rw [Option.isSome_some, if_pos rfl, lookup?_replaced, hheld, Option.map_some]
  | none =>
    rw [Option.isSome_none, if_neg Bool.false_ne_true, lookup?_append, lookup?_singleton]
    by_cases hother : other = name
    · simp [hother]
    · simp [hother, Ne.symm hother]

end PenPlot.Json
