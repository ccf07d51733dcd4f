-- The pieces of a template. A text falls into characters and fields in one way only: from left
-- to right, a field is taken whole where one starts, and every other character stands for itself.
-- The fields are listed by name in the order in which each of them first occurs.
import Mathlib.Data.List.Basic
import Mathlib.Data.List.Induction
import Mathlib.Data.List.TakeWhile
import PenPlot.Template.Basic

namespace PenPlot.Template

/-! ## Fields -/

/-- A name that a field can have: one word character at least, and no other character. -/
structure IsName (name : List Char) : Prop where
  nonempty : name ≠ []
  word : ∀ c ∈ name, Text.isWordChar c = true

/-- A text starts with a field: a name between braces. -/
def StartsWithField (text : List Char) : Prop :=
  ∃ name rest, IsName name ∧ text = (Piece.field name).source ++ rest

variable {name rest text : List Char} {ps : List Piece}

theorem source_field_append (name rest : List Char) :
    (Piece.field name).source ++ rest = '\x7b' :: (name ++ '\x7d' :: rest) := by
  unfold Piece.source
  rw [List.cons_append, List.append_assoc, List.singleton_append]

/-- After an opening brace a field is found exactly where a name and a closing brace follow. The
closing brace is no word character, so the name cannot end anywhere else. -/
theorem fieldAfterBrace?_eq_some_iff :
    fieldAfterBrace? text = some (name, rest) ↔ IsName name ∧ text = name ++ '\x7d' :: rest := by
  constructor
  · intro h
    have hword : ∀ c ∈ text.takeWhile Text.isWordChar, Text.isWordChar c = true := fun c =>
      List.mem_takeWhile_imp
    have hsplit := List.takeWhile_append_dropWhile (p := Text.isWordChar) (l := text)
    unfold fieldAfterBrace? at h
    generalize text.takeWhile Text.isWordChar = front,
      text.dropWhile Text.isWordChar = back at h hword hsplit
    split at h
    · cases h
    · next hne =>
      cases h
      exact ⟨⟨fun hnil => hne (hnil ▸ rfl), hword⟩, hsplit.symm⟩
    · cases h
  · rintro ⟨⟨hne, hword⟩, rfl⟩
    have hbrace : Text.isWordChar '\x7d' = false := by decide
    have hfront : (name ++ '\x7d' :: rest).takeWhile Text.isWordChar = name := by
      rw [List.takeWhile_append_of_pos hword, List.takeWhile_cons_of_neg (by simp [hbrace]),
        List.append_nil]
    have hback : (name ++ '\x7d' :: rest).dropWhile Text.isWordChar = '\x7d' :: rest := by
      rw [List.dropWhile_append_of_pos hword, List.dropWhile_cons_of_neg (by simp [hbrace])]
    unfold fieldAfterBrace?
    rw [hfront, hback]
    cases name with
    | nil => exact absurd rfl hne
    | cons c more => rfl

/-- A text starts with a field exactly where it is an opening brace with a field after it. -/
theorem startsWithField_cons_iff (c : Char) (rest : List Char) :
    StartsWithField (c :: rest) ↔ c = '\x7b' ∧ (fieldAfterBrace? rest).isSome = true := by
  rw [Option.isSome_iff_exists]
  constructor
  · rintro ⟨name, after, hname, htext⟩
    rw [source_field_append, List.cons.injEq] at htext
    exact ⟨htext.1, (name, after), fieldAfterBrace?_eq_some_iff.mpr ⟨hname, htext.2⟩⟩
  · rintro ⟨rfl, ⟨name, after⟩, hfound⟩
    obtain ⟨hname, rfl⟩ := fieldAfterBrace?_eq_some_iff.mp hfound
    exact ⟨name, after, hname, (source_field_append name after).symm⟩

instance : DecidablePred StartsWithField
  | [] => isFalse fun ⟨_, _, _, htext⟩ => nomatch htext
  | c :: rest => decidable_of_iff _ (startsWithField_cons_iff c rest).symm

/-! ## Taking a text apart -/

/-- A text taken apart from left to right: a field that starts is taken whole, and a character
where none starts stands for itself. -/
inductive Decomposed : List Char → List Piece → Prop
  | done : Decomposed [] []
  | field {name rest : List Char} {ps : List Piece} :
      IsName name → Decomposed rest ps →
      Decomposed ((Piece.field name).source ++ rest) (.field name :: ps)
  | literal {c : Char} {rest : List Char} {ps : List Piece} :
      ¬ StartsWithField (c :: rest) → Decomposed rest ps →
      Decomposed (c :: rest) (.literal c :: ps)

theorem decomposed_pieces (text : List Char) : Decomposed text (pieces text) := by
  fun_induction pieces text with
  | case1 => exact .done
  | case2 rest name after hfound ih =>
    obtain ⟨hname, rfl⟩ := fieldAfterBrace?_eq_some_iff.mp hfound
    rw [← source_field_append]
    exact .field hname ih
  | case3 rest hnone ih =>
    refine .literal (fun hstart => ?_) ih
    obtain ⟨-, hfound⟩ := (startsWithField_cons_iff ..).mp hstart
    rw [hnone] at hfound
    cases hfound
  | case4 c rest hbrace ih =>
    exact .literal (fun hstart => hbrace ((startsWithField_cons_iff ..).mp hstart).1) ih

theorem Decomposed.pieces_eq (h : Decomposed text ps) : pieces text = ps := by
  induction h with
  | done => rw [pieces]
  | @field name rest ps hname _ ih =>
    have hfound : fieldAfterBrace? (name ++ '\x7d' :: rest) = some (name, rest) :=
      fieldAfterBrace?_eq_some_iff.mpr ⟨hname, rfl⟩
    rw [source_field_append, pieces, if_pos rfl]
    split
    · next found =>
      rw [hfound] at found
      cases found
      rw [ih]
    · next found =>
      rw [hfound] at found
      cases found
  | @literal c rest ps hnot _ ih =>
    rw [startsWithField_cons_iff] at hnot
    rw [pieces]
    split
    · next hbrace =>
      split
      · next found => exact absurd ⟨hbrace, found ▸ rfl⟩ hnot
      · rw [ih]
    · rw [ih]

/-- There is one way to take a text apart. -/
theorem decomposed_iff : Decomposed text ps ↔ ps = pieces text :=
  ⟨fun h => h.pieces_eq.symm, fun h => h ▸ decomposed_pieces text⟩

/-- Put together, the pieces are the text. -/
theorem Decomposed.flatMap_source (h : Decomposed text ps) : ps.flatMap Piece.source = text := by
  induction h with
  | done => rfl
  | field _ _ ih => rw [List.flatMap_cons, ih]
  | literal _ _ ih =>
    rw [List.flatMap_cons, ih]
    rfl

/-! ## The order of first occurrence -/

/-- The elements of a list, each of them once, in the order in which it first occurs. -/
structure FirstOccurrences {α : Type} [BEq α] (xs ds : List α) : Prop where
  mem_iff : ∀ x, x ∈ ds ↔ x ∈ xs
  inOrder : ds.Pairwise fun a b => xs.idxOf a < xs.idxOf b

variable {α : Type} [BEq α] [LawfulBEq α]

theorem distinct_concat (xs : List α) (x : α) :
    distinct (xs ++ [x]) = if x ∈ distinct xs then distinct xs else distinct xs ++ [x] := by
  unfold distinct
  rw [List.foldl_append]
  simp only [List.foldl_cons, List.foldl_nil, List.contains_eq_mem, decide_eq_true_eq]

theorem firstOccurrences_distinct (xs : List α) : FirstOccurrences xs (distinct xs) := by
  induction xs using List.reverseRecOn with
  | nil => exact ⟨fun x => Iff.rfl, .nil⟩
  | append_singleton xs x ih =>
    -- What stood in the list already keeps its place when the list grows at its end.
    have hkept : ∀ a ∈ distinct xs, (xs ++ [x]).idxOf a = xs.idxOf a := fun a ha =>
      List.idxOf_append_of_mem ((ih.mem_iff a).mp ha)
    have hinOrder : (distinct xs).Pairwise fun a b =>
        (xs ++ [x]).idxOf a < (xs ++ [x]).idxOf b :=
      ih.inOrder.imp_of_mem fun ha hb hlt => by rwa [hkept _ ha, hkept _ hb]
    rw [distinct_concat]
    by_cases hx : x ∈ distinct xs
    · rw [if_pos hx]
      refine ⟨fun y => ?_, hinOrder⟩
      rw [ih.mem_iff, List.mem_append, List.mem_singleton, or_iff_left_of_imp]
      rintro rfl
      exact (ih.mem_iff y).mp hx
    · rw [if_neg hx]
      refine ⟨fun y => by simp only [List.mem_append, ih.mem_iff], ?_⟩
      refine List.pairwise_append.mpr ⟨hinOrder, List.pairwise_singleton _ _, ?_⟩
      rintro a ha b hb
      obtain rfl := List.mem_singleton.mp hb
      have hmem := (ih.mem_iff a).mp ha
      rw [hkept a ha, List.idxOf_append_of_notMem fun h => hx ((ih.mem_iff b).mpr h)]
      exact Nat.lt_of_lt_of_le (List.idxOf_lt_length_of_mem hmem) (Nat.le_add_right _ _)

/-- The names of a template are those of the fields that its text is taken apart into. -/
theorem firstOccurrences_placeholders (t : Template) :
    FirstOccurrences ((pieces t.text.toList).filterMap Piece.name?) t.placeholders :=
  firstOccurrences_distinct _

end PenPlot.Template
