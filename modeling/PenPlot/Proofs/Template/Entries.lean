-- Entries for the fields of a template. An entry is taken apart at its first equals sign: blanks
-- around its key do not count, and its value is kept as it is. The first entry without a key is
-- refused, and of entries with one key the last counts.
import Mathlib.Data.List.Nodup
import Mathlib.Data.List.Perm.Basic
import PenPlot.Proofs.Layout.Place
import PenPlot.Proofs.Template.Rendering
import PenPlot.Template.Entry

namespace PenPlot.Template

variable {entry key value : String} {values pairs : Values} {entries : List String}

/-! ## One entry -/

/-- An entry at its first equals sign: the key is what stands before it, without the blanks around
it, and the value is all that stands after it. -/
def Splits (entry key value : String) : Prop :=
  ∃ before, '=' ∉ before ∧ entry.toList = before ++ '=' :: value.toList ∧
    key.toList = Text.trim before

/-- An entry without a key: it has no equals sign, or nothing but blanks before the first one. -/
def Keyless (entry : String) : Prop :=
  '=' ∉ entry.toList ∨
    ∃ before after, entry.toList = before ++ '=' :: after ∧ ∀ c ∈ before, Text.isBlank c = true

section

variable {before after cs : List Char}

/-- A text is taken apart at its first equals sign in one way. -/
theorem takeWhile_of_append (hbefore : '=' ∉ before) (h : cs = before ++ '=' :: after) :
    cs.takeWhile (· ≠ '=') = before ∧ cs.dropWhile (· ≠ '=') = '=' :: after := by
  have hall : ∀ c ∈ before, decide (c ≠ '=') = true := by
    intro c hc
    rw [decide_eq_true_eq]
    rintro rfl
    exact hbefore hc
  rw [h, List.takeWhile_append_of_pos hall, List.dropWhile_append_of_pos hall]
  simp

theorem trim_eq_nil_iff : Text.trim cs = [] ↔ ∀ c ∈ cs, Text.isBlank c = true :=
  Text.trimBy_eq_nil_iff Text.isBlank cs

theorem not_mem_of_blank (h : ∀ c ∈ cs, Text.isBlank c = true) : '=' ∉ cs := fun hmem =>
  absurd (h '=' hmem) (by decide)

theorem keyless_iff_of_append (hbefore : '=' ∉ before) (h : entry.toList = before ++ '=' :: after) :
    Keyless entry ↔ Text.trim before = [] := by
  rw [trim_eq_nil_iff]
  constructor
  · rintro (hnone | ⟨front, back, hsplit, hblank⟩)
    · exact absurd (by simp [h]) hnone
    · obtain ⟨hfront, -⟩ := takeWhile_of_append (not_mem_of_blank hblank) hsplit
      obtain ⟨hsame, -⟩ := takeWhile_of_append hbefore h
      rwa [← hsame, hfront]
  · exact fun hblank => Or.inr ⟨before, after, h, hblank⟩

/-- An entry is read at its first equals sign. -/
theorem readEntry_of_append (hbefore : '=' ∉ before) (h : entry.toList = before ++ '=' :: after) :
    readEntry entry = if Text.trim before = [] then .error ⟨entry⟩
      else .ok (String.ofList (Text.trim before), String.ofList after) := by
  obtain ⟨htake, hdrop⟩ := takeWhile_of_append hbefore h
  simp only [readEntry, htake, hdrop]

end

theorem readEntry_of_not_mem (h : '=' ∉ entry.toList) : readEntry entry = .error ⟨entry⟩ := by
  have hnone : entry.toList.dropWhile (· ≠ '=') = [] := by
    rw [List.dropWhile_eq_nil_iff]
    intro c hc
    rw [decide_eq_true_eq]
    rintro rfl
    exact h hc
  simp only [readEntry, hnone]

/-- An entry is refused exactly where it has no key, and the error names it. -/
theorem readEntry_error_iff {e : BadEntry} :
    readEntry entry = .error e ↔ e.entry = entry ∧ Keyless entry := by
  have hname : BadEntry.mk entry = e ↔ e.entry = entry :=
    ⟨fun h => h ▸ rfl, fun h => h ▸ rfl⟩
  by_cases hsign : '=' ∈ entry.toList
  · obtain ⟨before, after, hsplit, hbefore⟩ := List.eq_append_cons_of_mem hsign
    rw [readEntry_of_append hbefore hsplit, keyless_iff_of_append hbefore hsplit]
    split <;> simp_all
  · rw [readEntry_of_not_mem hsign, Except.error.injEq, hname]
    exact (and_iff_left (Or.inl hsign)).symm

/-- An entry with a key is read. -/
theorem exists_readEntry_iff : (∃ v, readEntry entry = .ok v) ↔ ¬ Keyless entry := by
  have herror : (∃ e, readEntry entry = .error e) ↔ Keyless entry := by
    simp only [readEntry_error_iff]
    exact ⟨fun ⟨_, _, h⟩ => h, fun h => ⟨⟨entry⟩, rfl, h⟩⟩
  rw [← herror]
  cases readEntry entry <;> simp

/-- An entry that is read gives its key and its value. -/
theorem readEntry_ok_iff :
    readEntry entry = .ok (key, value) ↔ Splits entry key value ∧ ¬ Keyless entry := by
  by_cases hsign : '=' ∈ entry.toList
  · obtain ⟨before, after, hsplit, hbefore⟩ := List.eq_append_cons_of_mem hsign
    have hsplits : Splits entry key value ↔
        String.ofList (Text.trim before) = key ∧ String.ofList after = value := by
      rw [← String.toList_inj, ← String.toList_inj, String.toList_ofList, String.toList_ofList]
      constructor
      · rintro ⟨front, hfront, h, hkey⟩
        obtain ⟨htake, hdrop⟩ := takeWhile_of_append hbefore hsplit
        obtain ⟨htake', hdrop'⟩ := takeWhile_of_append hfront h
        rw [← htake, htake', ← hkey]
        exact ⟨rfl, (List.cons.inj (hdrop.symm.trans hdrop')).2⟩
      · rintro ⟨hkey, hvalue⟩
        exact ⟨before, hbefore, hvalue ▸ hsplit, hkey.symm⟩
    rw [readEntry_of_append hbefore hsplit, keyless_iff_of_append hbefore hsplit, hsplits]
    split <;> simp_all
  · rw [readEntry_of_not_mem hsign]
    constructor
    · intro h
      cases h
    · rintro ⟨⟨before, -, hsplit, -⟩, -⟩
      exact absurd (by simp [hsplit]) hsign

/-! ## One value for each key -/

/-- A new entry takes the place of the old ones with its key. -/
theorem mem_insert {v : String × String} :
    (key, value) ∈ values.insert v ↔ (key, value) = v ∨ key ≠ v.1 ∧ (key, value) ∈ values := by
  unfold Values.insert
  by_cases hany : ∃ w ∈ values, w.1 = v.1
  · have hold : (values.any fun w => w.1 == v.1) = true := by simpa using hany
    obtain ⟨w, hw, hkey⟩ := hany
    rw [if_pos hold, List.mem_map]
    constructor
    · rintro ⟨u, hu, heq⟩
      split at heq
      · exact Or.inl heq.symm
      · rename_i hne
        subst heq
        exact Or.inr ⟨by simpa using hne, hu⟩
    · rintro (rfl | ⟨hne, hmem⟩)
      · exact ⟨w, hw, by simp [hkey]⟩
      · exact ⟨(key, value), hmem, by simp [hne]⟩
  · have hnew : ¬ (values.any fun w => w.1 == v.1) = true := by simpa using hany
    rw [if_neg hnew, List.mem_append, List.mem_singleton, or_comm]
    refine or_congr_right (iff_and_self.mpr fun hmem hkey => hany ⟨_, hmem, hkey⟩)

/-- No key is put in twice. -/
theorem nodup_insert (h : (values.map Prod.fst).Nodup) (v : String × String) :
    ((values.insert v).map Prod.fst).Nodup := by
  unfold Values.insert
  by_cases hany : v.1 ∈ values.map Prod.fst
  · have hold : (values.any fun w => w.1 == v.1) = true := by simpa using hany
    have hkeys : (values.map fun w => if w.1 == v.1 then v else w).map Prod.fst =
        values.map Prod.fst := by
      rw [List.map_map]
      refine List.map_congr_left fun w _ => ?_
      by_cases hw : w.1 = v.1 <;> simp [hw]
    rwa [if_pos hold, hkeys]
  · have hnew : ¬ (values.any fun w => w.1 == v.1) = true := by simpa using hany
    rw [if_neg hnew, List.map_append, List.map_singleton, ← List.concat_eq_append]
    exact (List.nodup_concat _ _).mpr ⟨hany, h⟩

/-- A value is given by the last entry if it is the one under its key, and else by those before. -/
theorem Values.gives_concat {v : String × String} :
    Values.Gives (pairs ++ [v]) key value ↔
      (key, value) = v ∨ key ≠ v.1 ∧ pairs.Gives key value := by
  rw [Values.gives_iff, Values.gives_iff, List.reverse_append, List.reverse_singleton,
    List.singleton_append, List.find?_cons]
  by_cases hkey : v.1 = key
  · simp [hkey, eq_comm, Prod.ext_iff]
  · have hne : (v.1 == key) = false := by simpa using hkey
    simp only [hne, Prod.ext_iff, Ne.symm hkey, ne_eq, not_false_eq_true, true_and, false_and,
      false_or]

/-- Put in one after the other, pairs leave the last value of each key. -/
theorem mem_foldl_insert :
    (key, value) ∈ pairs.foldl Values.insert [] ↔ pairs.Gives key value := by
  induction pairs using List.reverseRecOn with
  | nil => simp [Values.Gives]
  | append_singleton pairs v ih =>
    rw [List.foldl_append, List.foldl_cons, List.foldl_nil, mem_insert, ih, Values.gives_concat]

theorem nodup_foldl_insert (pairs : Values) :
    ((pairs.foldl Values.insert []).map Prod.fst).Nodup :=
  List.foldlRecOn (motive := fun values : Values => (values.map Prod.fst).Nodup) pairs _
    List.nodup_nil fun _ h v _ => nodup_insert h v

/-- Pairs with distinct keys are left as they are. -/
theorem foldl_insert_eq_self (h : (pairs.map Prod.fst).Nodup) :
    pairs.foldl Values.insert [] = pairs := by
  induction pairs using List.reverseRecOn with
  | nil => rfl
  | append_singleton pairs v ih =>
    rw [List.map_append, List.map_singleton, ← List.concat_eq_append, List.nodup_concat] at h
    have hnew : ¬ (pairs.any fun w => w.1 == v.1) = true := by simpa using h.1
    rw [List.foldl_append, List.foldl_cons, List.foldl_nil, ih h.2, Values.insert, if_neg hnew]

/-! ## Dictionaries -/

/-- A key as it is read: not empty, without an equals sign, and without blanks around it. -/
structure IsKey (key : String) : Prop where
  nonempty : key ≠ ""
  noSign : '=' ∉ key.toList
  trimmed : Text.trimmed key = key

/-- The entry for a key and its value. -/
def entryOf (v : String × String) : String := v.1 ++ "=" ++ v.2

theorem readEntry_entryOf {v : String × String} (h : IsKey v.1) :
    readEntry (entryOf v) = .ok v := by
  have hsplit : (entryOf v).toList = v.1.toList ++ '=' :: v.2.toList := by simp [entryOf]
  have htrim : Text.trim v.1.toList = v.1.toList := by
    rw [← String.toList_ofList (l := Text.trim _)]
    exact congrArg String.toList h.trimmed
  have hne : v.1.toList ≠ [] := by simpa using h.nonempty
  rw [readEntry_of_append h.noSign hsplit, htrim, if_neg hne, String.ofList_toList,
    String.ofList_toList]

/-! ## The law -/

/-- The value that the last entry with a key has. -/
def LastGives (entries : List String) (key value : String) : Prop :=
  ∃ before entry after, entries = before ++ entry :: after ∧ Splits entry key value ∧
    ∀ x ∈ after, ∀ other, ¬ Splits x key other

theorem gives_map_iff {g : String → String × String} (h : ∀ x ∈ entries, readEntry x = .ok (g x)) :
    Values.Gives (entries.map g) key value ↔ LastGives entries key value := by
  have hsplits : ∀ x ∈ entries, ∀ k v, Splits x k v ↔ g x = (k, v) := by
    intro x hx k v
    obtain ⟨-, hkey⟩ := readEntry_ok_iff.mp (h x hx)
    rw [← Except.ok.injEq (ε := BadEntry), ← h x hx, readEntry_ok_iff, and_iff_left hkey]
  constructor
  · rintro ⟨before, after, hsplit, hafter⟩
    obtain ⟨front, rest, rfl, rfl, hrest⟩ := List.map_eq_append_iff.mp hsplit
    obtain ⟨entry, back, rfl, hentry, rfl⟩ := List.map_eq_cons_iff.mp hrest
    refine ⟨front, entry, back, rfl, (hsplits _ (by simp) _ _).mpr hentry,
      fun x hx other hkey => ?_⟩
    have hgx := (hsplits x (by simp [hx]) _ _).mp hkey
    exact hafter _ (List.mem_map_of_mem hx) (by rw [hgx])
  · rintro ⟨front, entry, back, rfl, hentry, hback⟩
    refine ⟨front.map g, back.map g, ?_, ?_⟩
    · rw [List.map_append, List.map_cons, (hsplits _ (by simp) _ _).mp hentry]
    · intro v hv hkey
      obtain ⟨x, hx, rfl⟩ := List.mem_map.mp hv
      exact hback x hx (g x).2 ((hsplits x (by simp [hx]) _ _).mpr (by rw [← hkey]))

/-- Entries that are texts are read in the same way where entries may be of any kind. -/
theorem readGiven_texts (entries : List String) :
    readGiven (entries.map Json.str) = (readEntries entries).mapError EntryError.noKey := by
  have hpairs (read : Json → Except EntryError (String × String))
      (hread : ∀ s, read (.str s) = (readEntry s).mapError .noKey) :
      (entries.map Json.str).mapM read = (entries.mapM readEntry).mapError .noKey := by
    induction entries with
    | nil => rfl
    | cons entry rest ih =>
      rw [List.map_cons, List.mapM_cons, List.mapM_cons, ih, hread]
      cases readEntry entry with
      | error e => rfl
      | ok v => cases rest.mapM readEntry <;> rfl
  rw [readGiven, hpairs _ fun _ => rfl, readEntries]
  cases entries.mapM readEntry <;> rfl

/-- Of the entries without a key the first one is named. -/
theorem readEntries_error_iff {e : BadEntry} :
    readEntries entries = .error e ↔ ∃ before after, entries = before ++ e.entry :: after ∧
      Keyless e.entry ∧ ∀ x ∈ before, ¬ Keyless x := by
  have hmap : readEntries entries = .error e ↔ entries.mapM readEntry = .error e := by
    unfold readEntries
    cases entries.mapM readEntry <;> simp [Except.map]
  rw [hmap, Layout.mapM_error_iff]
  simp only [readEntry_error_iff, exists_readEntry_iff]
  constructor
  · rintro ⟨before, x, after, hsplit, ⟨rfl, hkeyless⟩, hbefore⟩
    exact ⟨before, after, hsplit, hkeyless, hbefore⟩
  · rintro ⟨before, after, hsplit, hkeyless, hbefore⟩
    exact ⟨before, e.entry, after, hsplit, ⟨rfl, hkeyless⟩, hbefore⟩

theorem exists_readEntries_error_iff :
    (∃ e, readEntries entries = .error e) ↔ ∃ x ∈ entries, Keyless x := by
  constructor
  · rintro ⟨e, he⟩
    obtain ⟨before, after, hsplit, hkeyless, -⟩ := readEntries_error_iff.mp he
    exact ⟨e.entry, by simp [hsplit], hkeyless⟩
  · rintro ⟨x, hx, hkeyless⟩
    by_contra hnone
    have hread : ∀ y ∈ entries, ∃ v, readEntry y = .ok v := by
      rw [← Layout.isOk_mapM_iff]
      cases hpairs : entries.mapM readEntry with
      | error e => exact absurd ⟨e, by rw [readEntries, hpairs]; rfl⟩ hnone
      | ok pairs => exact ⟨pairs, rfl⟩
    exact exists_readEntry_iff.mp (hread x hx) hkeyless

/-- Entries with keys are all read, and the last one with a key gives its value. -/
theorem exists_readEntries (h : ∀ x ∈ entries, ¬ Keyless x) :
    ∃ values, readEntries entries = .ok values ∧ (values.map Prod.fst).Nodup ∧
      ∀ key value, (key, value) ∈ values ↔ LastGives entries key value := by
  choose! g hg using fun x hx => exists_readEntry_iff.mpr (h x hx)
  have hpairs : entries.mapM readEntry = .ok (entries.map g) := by
    rw [Layout.mapM_ok_iff, List.forall₂_map_right_iff, List.forall₂_same]
    exact hg
  refine ⟨(entries.map g).foldl Values.insert [], by rw [readEntries, hpairs]; rfl,
    nodup_foldl_insert _, fun key value => ?_⟩
  rw [mem_foldl_insert, gives_map_iff hg]

/-- The entries of a dictionary, in whichever order they come, are read as the dictionary. -/
theorem exists_readEntries_of_perm {dictionary : Values} (hkeys : (dictionary.map Prod.fst).Nodup)
    (h : ∀ v ∈ dictionary, IsKey v.1) (hperm : entries.Perm (dictionary.map entryOf)) :
    ∃ values, readEntries entries = .ok values ∧ values.Perm dictionary := by
  have hread : List.Forall₂ (fun x v => readEntry x = .ok v)
      (dictionary.map entryOf) dictionary := by
    rw [List.forall₂_map_left_iff, List.forall₂_same]
    exact fun v hv => readEntry_entryOf (h v hv)
  obtain ⟨order, horder, hsame⟩ := List.perm_comp_forall₂ hperm hread
  have hdistinct : (order.map Prod.fst).Nodup := (hsame.map Prod.fst).nodup_iff.mpr hkeys
  refine ⟨order, ?_, hsame⟩
  rw [readEntries, Layout.mapM_ok_iff.mpr horder, Except.map, foldl_insert_eq_self hdistinct]

/-- Entries are refused exactly where one of them has no key, and then the first such entry is
named. Otherwise each key has the value of the last entry with it, all that stands after the first
equals sign, and there are no other keys. So the entries of a dictionary are read as the dictionary
again, whatever its values hold. -/
theorem the_last_entry_with_a_key_counts (entries : List String) :
    ((∃ e, readEntries entries = .error e) ↔ ∃ x ∈ entries, Keyless x) ∧
      (∀ e, readEntries entries = .error e →
        e.message = "expected key=value, got '" ++ e.entry ++ "'" ∧
          ∃ before after, entries = before ++ e.entry :: after ∧ Keyless e.entry ∧
            ∀ x ∈ before, ¬ Keyless x) ∧
      ((∀ x ∈ entries, ¬ Keyless x) → ∃ values, readEntries entries = .ok values ∧
        (values.map Prod.fst).Nodup ∧
          ∀ key value, (key, value) ∈ values ↔ LastGives entries key value) ∧
      ∀ dictionary : Values, (dictionary.map Prod.fst).Nodup → (∀ v ∈ dictionary, IsKey v.1) →
        entries.Perm (dictionary.map entryOf) →
          ∃ values, readEntries entries = .ok values ∧ values.Perm dictionary :=
  ⟨exists_readEntries_error_iff, fun _ he => ⟨rfl, readEntries_error_iff.mp he⟩,
    exists_readEntries, fun _ => exists_readEntries_of_perm⟩

instance : DecidablePred Keyless := fun entry =>
  decidable_of_iff ((readEntry entry).isOk = false) <| by
    rw [← not_iff_not, ← exists_readEntry_iff]
    cases readEntry entry <;> simp [Except.isOk, Except.toBool]

/-- Blanks around a key do not make another key, and a value may hold equals signs and blanks. -/
theorem a_later_entry_takes_the_place_of_an_earlier_one :
    (∃ values, readEntries [" a =1", "b= x ", "a\t==2"] = .ok values ∧ ("a", "=2") ∈ values ∧
      ("a", "1") ∉ values) ∧
    (∃ values, readEntries ["a==2", "b= x "] = .ok values ∧
      values.Perm [("b", " x "), ("a", "=2")]) ∧
    ∃ e, readEntries ["a=1", " =2", "b"] = .error e ∧ e.entry = " =2" := by
  refine ⟨?_, ?_, ?_⟩
  · obtain ⟨-, -, hread, -⟩ :=
      the_last_entry_with_a_key_counts [" a =1", "b= x ", "a\t==2"]
    obtain ⟨values, hvalues, hkeys, hmem⟩ := hread (by decide)
    have hlast : ("a", "=2") ∈ values := (hmem _ _).mpr
      ⟨[" a =1", "b= x "], "a\t==2", [], rfl, ⟨"a\t".toList, by decide, by decide, by decide⟩,
        by simp⟩
    refine ⟨values, hvalues, hlast, fun hfirst => ?_⟩
    exact absurd (List.inj_on_of_nodup_map hkeys hfirst hlast rfl) (by decide)
  · obtain ⟨-, -, -, hdictionary⟩ := the_last_entry_with_a_key_counts ["a==2", "b= x "]
    refine hdictionary [("b", " x "), ("a", "=2")] (by decide) ?_ (by decide)
    simp only [List.forall_mem_cons, List.not_mem_nil, false_imp_iff, implies_true, and_true]
    exact ⟨⟨by decide, by decide, by decide⟩, by decide, by decide, by decide⟩
  · obtain ⟨hrefused, hnamed, -⟩ := the_last_entry_with_a_key_counts ["a=1", " =2", "b"]
    obtain ⟨e, he⟩ := hrefused.mpr ⟨" =2", by simp, by decide⟩
    obtain ⟨-, before, after, hsplit, hkeyless, hbefore⟩ := hnamed e he
    refine ⟨e, he, ?_⟩
    rcases before with _ | ⟨x, _ | ⟨y, before⟩⟩
    · obtain ⟨hfirst, -⟩ := List.cons.inj hsplit
      exact absurd hkeyless (hfirst ▸ by decide)
    · exact (List.cons.inj (List.cons.inj hsplit).2).1.symm
    · obtain ⟨rfl, hrest⟩ := List.cons.inj hsplit
      obtain ⟨rfl, -⟩ := List.cons.inj hrest
      exact absurd (by decide) (hbefore " =2" (by simp))

end PenPlot.Template
