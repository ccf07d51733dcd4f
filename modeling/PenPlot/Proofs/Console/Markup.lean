-- What is shown of a marked-up text. A text in which no tag starts is one piece; a text with one
-- styled stretch shows the pieces before it, within it and after it.
import Mathlib.Data.List.TakeWhile
import PenPlot.Console.Markup

namespace PenPlot.Console

variable {cs ds rest style pending : List Char} {slashes : Nat} {c : Char}

/-! ## Pieces -/

theorem marksFrom_nil (pending : List Char) (slashes : Nat) :
    marksFrom pending slashes [] = [.plain (pending.reverse ++ List.replicate slashes '\\')] := by
  rw [marksFrom]

theorem marksFrom_slash (pending : List Char) (slashes : Nat) (rest : List Char) :
    marksFrom pending slashes ('\\' :: rest) = marksFrom pending (slashes + 1) rest := by
  rw [marksFrom, if_pos rfl]

/-- A character that starts no tag waits for the end of its piece. -/
theorem marksFrom_plain (hslash : c ≠ '\\') (htag : c = '[' → tagAfterBracket? rest = none) :
    marksFrom pending slashes (c :: rest) =
      marksFrom (c :: (List.replicate slashes '\\' ++ pending)) 0 rest := by
  have hnone : (if c = '[' then tagAfterBracket? rest else none) = none := by
    split
    · exact htag ‹_›
    · rfl
  rw [marksFrom, if_neg hslash]
  split
  · rename_i hfound
    rw [hnone] at hfound
    cases hfound
  · rfl

theorem marksFrom_tag {body after : List Char} (h : tagAfterBracket? rest = some (body, after)) :
    marksFrom pending slashes ('[' :: rest) =
      [.plain pending.reverse, .plain (List.replicate (slashes / 2) '\\'),
        if slashes % 2 = 1 then .plain ('[' :: (body ++ [']'])) else .tag body] ++
        marksFrom [] 0 after := by
  rw [marksFrom, if_neg (by decide)]
  split
  · rename_i hfound
    rw [if_pos rfl, h, Option.some_inj, Prod.mk.injEq] at hfound
    obtain ⟨rfl, rfl⟩ := hfound
    rfl
  · rename_i hfound
    rw [if_pos rfl, h] at hfound
    cases hfound

/-- No tag starts in a text where `rest` follows it. -/
def NoTag (cs rest : List Char) : Prop :=
  ∀ after, '[' :: after <:+ cs → tagAfterBracket? (after ++ rest) = none

theorem NoTag.of_cons (h : NoTag (c :: cs) rest) : NoTag cs rest :=
  fun after hafter => h after (hafter.trans (List.suffix_cons c cs))

/-- A text in which no tag starts waits for the end of its piece as a whole, and the backslashes
at its end are counted. -/
theorem NoTag.exists_marksFrom (h : NoTag cs rest) (front : List Char)
    (hfront : front.getLast? ≠ some '\\') (slashes : Nat) :
    ∃ waiting slashes', waiting ++ List.replicate slashes' '\\' =
        front ++ List.replicate slashes '\\' ++ cs ∧ waiting.getLast? ≠ some '\\' ∧
      marksFrom front.reverse slashes (cs ++ rest) = marksFrom waiting.reverse slashes' rest := by
  induction cs generalizing front slashes with
  | nil => exact ⟨front, slashes, by simp, hfront, rfl⟩
  | cons c cs ih =>
    by_cases hslash : c = '\\'
    · obtain ⟨waiting, slashes', hwhole, hlast, hmarks⟩ := ih h.of_cons front hfront (slashes + 1)
      refine ⟨waiting, slashes', ?_, hlast, ?_⟩
      · rw [hwhole, hslash, List.replicate_succ']
        simp
      · rw [hslash, List.cons_append, marksFrom_slash, hmarks]
    · have hlonger : (front ++ List.replicate slashes '\\' ++ [c]).getLast? ≠ some '\\' := by
        simpa using hslash
      obtain ⟨waiting, slashes', hwhole, hlast, hmarks⟩ := ih h.of_cons _ hlonger 0
      refine ⟨waiting, slashes', ?_, hlast, ?_⟩
      · rw [hwhole]
        simp
      · rw [List.cons_append, marksFrom_plain hslash ?_, ← hmarks]
        · simp
        · rintro rfl
          exact h cs (List.suffix_refl _)

/-- A text in which no tag starts is one piece. -/
theorem NoTag.marks_eq (h : NoTag cs []) : marks cs = [.plain cs] := by
  obtain ⟨waiting, slashes, hwhole, -, hmarks⟩ := h.exists_marksFrom [] (by simp) 0
  rw [List.append_nil] at hmarks
  rw [marks, ← List.reverse_nil, hmarks, marksFrom_nil, List.reverse_reverse, hwhole]
  simp

theorem noTag_of_not_mem (h : '[' ∉ cs) (rest : List Char) : NoTag cs rest :=
  fun _ hafter => absurd (hafter.subset List.mem_cons_self) h

/-- What may stand between the brackets of a tag. -/
def isTagBody : List Char → Bool
  | [] => false
  | c :: rest => startsTag c && rest.all fun d => d != '[' && d != ']'

theorem tagAfterBracket?_of_isTagBody (h : isTagBody cs = true) (rest : List Char) :
    tagAfterBracket? (cs ++ ']' :: rest) = some (cs, rest) := by
  cases cs with
  | nil => cases h
  | cons c cs =>
    rw [isTagBody, Bool.and_eq_true] at h
    obtain ⟨hstart, hbody⟩ := h
    have hall := List.all_eq_true.mp hbody
    rw [List.cons_append, tagAfterBracket?, if_pos hstart, List.dropWhile_append_of_pos hall,
      List.takeWhile_append_of_pos hall]
    simp

/-! ## Emoji -/

/-- A text stays as it is where no colon begins a name. -/
theorem withEmoji_eq_self_of_colons
    (h : ∀ after, ':' :: after <:+ cs → codeAfterColon? after = none) : withEmoji cs = cs := by
  induction cs with
  | nil => rw [withEmoji]
  | cons c cs ih =>
    have hrest := ih fun after hafter => h after (hafter.trans (List.suffix_cons c cs))
    rw [withEmoji]
    split
    · rename_i hc
      subst hc
      have hnone := h cs (List.suffix_refl _)
      split
      · rename_i hfound
        rw [hnone] at hfound
        cases hfound
      · rw [hrest]
    · rw [hrest]

theorem withEmoji_cons (hc : c ≠ ':') (cs : List Char) :
    withEmoji (c :: cs) = c :: withEmoji cs := by
  rw [withEmoji, if_neg hc]

theorem withoutEscapes_cons (hc : c ≠ '\\') (cs : List Char) :
    withoutEscapes (c :: cs) = c :: withoutEscapes cs := by
  rw [withoutEscapes]
  rintro rest rfl
  exact absurd rfl hc

/-! ## Literal texts -/

/-- A text that is shown as it stands: no tag starts in it, it escapes no bracket and names no
emoji, and the console drops none of its characters. -/
structure Literal (cs : List Char) : Prop where
  noTag : NoTag cs []
  noEscape : withoutEscapes cs = cs
  noEmoji : withEmoji cs = cs
  noDropped : ∀ c ∈ cs, isDropped c = false

theorem Literal.shownPiece_eq (h : Literal cs) : shownPiece cs = cs := by
  rw [shownPiece, h.noEscape, h.noEmoji, List.filter_eq_self]
  intro c hc
  rw [h.noDropped c hc]
  rfl

/-- A character that has no meaning in any place. -/
def isMeaningless (c : Char) : Bool := c != '[' && c != '\\' && c != ':' && !isDropped c

theorem Literal.cons (h : Literal cs) (hc : isMeaningless c = true) : Literal (c :: cs) := by
  simp only [isMeaningless, Bool.and_eq_true, bne_iff_ne, Bool.not_eq_true'] at hc
  obtain ⟨⟨⟨hbracket, hslash⟩, hcolon⟩, hdropped⟩ := hc
  refine ⟨?_, ?_, ?_, ?_⟩
  · intro after hafter
    rcases List.suffix_cons_iff.mp hafter with heq | hafter
    · exact absurd (List.cons.inj heq).1.symm hbracket
    · exact h.noTag after hafter
  · rw [withoutEscapes_cons hslash, h.noEscape]
  · rw [withEmoji_cons hcolon, h.noEmoji]
  · exact List.forall_mem_cons.mpr ⟨hdropped, h.noDropped⟩

theorem literal_of_forall (h : ∀ c ∈ cs, isMeaningless c = true) : Literal cs := by
  induction cs with
  | nil =>
    exact ⟨noTag_of_not_mem (by simp) [], by simp [withoutEscapes], by simp [withEmoji], by simp⟩
  | cons c cs ih =>
    obtain ⟨hc, hcs⟩ := List.forall_mem_cons.mp h
    exact (ih hcs).cons hc

/-! ## Styles -/

/-- A style that a tag may ask for by its own name, and that is known. -/
structure IsStyle (style : List Char) : Prop where
  tag : isTagBody style = true
  closing : isTagBody ('/' :: style) = true
  first : style.head? ≠ some '/' ∧ style.head? ≠ some '@'
  noArgument : '=' ∉ style
  trim_eq : Text.trim style = style
  name_eq : styleName style = .ok style
  known : (TextStyle.ofText style).isOk = true

instance (style : List Char) : Decidable (IsStyle style) :=
  decidable_of_iff (isTagBody style = true ∧ isTagBody ('/' :: style) = true ∧
      (style.head? ≠ some '/' ∧ style.head? ≠ some '@') ∧ '=' ∉ style ∧ Text.trim style = style ∧
      styleName style = .ok style ∧ (TextStyle.ofText style).isOk = true)
    ⟨fun ⟨h₁, h₂, h₃, h₄, h₅, h₆, h₇⟩ => ⟨h₁, h₂, h₃, h₄, h₅, h₆, h₇⟩,
      fun ⟨h₁, h₂, h₃, h₄, h₅, h₆, h₇⟩ => ⟨h₁, h₂, h₃, h₄, h₅, h₆, h₇⟩⟩

theorem IsStyle.ne_nil (h : IsStyle style) : style ≠ [] := by
  rintro rfl
  exact absurd h.tag (by decide)

theorem takeWhile_ne_eq_self (h : '=' ∉ cs) : cs.takeWhile (· != '=') = cs := by
  rw [List.takeWhile_eq_self_iff]
  intro c hc
  rw [bne_iff_ne]
  rintro rfl
  exact h hc

theorem dropWhile_ne_eq_nil (h : '=' ∉ cs) : cs.dropWhile (· != '=') = [] := by
  rw [List.dropWhile_eq_nil_iff]
  intro c hc
  rw [bne_iff_ne]
  rintro rfl
  exact h hc

/-- The tag that is open after the opening tag of a style. -/
def openTag (style : List Char) (start : Nat) : OpenTag := ⟨style, none, start⟩

theorem IsStyle.tag_open (h : IsStyle style) (r : Reading) :
    r.tag style = .ok { r with opened := openTag style r.length :: r.opened } := by
  rw [Reading.tag]
  simp only [takeWhile_ne_eq_self h.noArgument, dropWhile_ne_eq_nil h.noArgument]
  split
  · exact absurd rfl h.first.1
  · rw [h.name_eq]
    rfl

theorem IsStyle.tag_close (h : IsStyle style) (shown : List Char) (length start : Nat)
    (closed : List Span) :
    (⟨shown, length, [openTag style start], closed⟩ : Reading).tag ('/' :: style) =
      .ok ⟨shown, length, [], ⟨start, length, style⟩ :: closed⟩ := by
  have hslash : '=' ∉ '/' :: style := by simpa using h.noArgument
  have hfind : [openTag style start].find? (fun t => t.name == style) =
      some (openTag style start) := by
    simp [openTag]
  have haction : (openTag style start).isAction = false := by
    simpa [OpenTag.isAction, openTag] using h.first.2
  rw [Reading.tag]
  simp only [takeWhile_ne_eq_self hslash, h.trim_eq]
  split
  · exact absurd rfl h.ne_nil
  · simp only [h.name_eq]
    rw [Reading.close, hfind]
    simp only [haction, Bool.false_eq_true, if_false]
    simp [openTag, OpenTag.style]

/-! ## What is shown -/

/-- What is shown of characters with markup. -/
def shownOf (cs : List Char) : Except MarkupError (List Char × List Span) :=
  ((marks cs).foldlM Reading.take {}).map fun r => (r.shown.reverse, r.spans)

theorem shown_eq (text : String) : Console.shown text = shownOf text.toList := rfl

/-- A text in which no tag starts shows one piece. -/
theorem NoTag.shownOf_eq (h : NoTag cs []) : shownOf cs = .ok (shownPiece cs, []) := by
  rw [shownOf, h.marks_eq]
  simp [Reading.take, Reading.spans, bind, Except.bind, pure, Except.pure, Except.map]

/-- A piece without backslashes and colons escapes nothing and names no emoji. -/
theorem shownPiece_eq_filter (hslash : '\\' ∉ cs) (hcolon : ':' ∉ cs) :
    shownPiece cs = cs.filter (!isDropped ·) := by
  have hplain : withoutEscapes cs = cs ∧ withEmoji cs = cs := by
    induction cs with
    | nil => simp [withoutEscapes, withEmoji]
    | cons c cs ih =>
      rw [List.mem_cons, not_or] at hslash hcolon
      obtain ⟨hescapes, hemoji⟩ := ih hslash.2 hcolon.2
      rw [withoutEscapes_cons (Ne.symm hslash.1), withEmoji_cons (Ne.symm hcolon.1), hescapes,
        hemoji]
      exact ⟨rfl, rfl⟩
  rw [shownPiece, hplain.1, hplain.2]

/-- Markup with one stretch in a style. -/
def styled (style before inner after : List Char) : List Char :=
  before ++ '[' :: (style ++ ']' :: (inner ++ '[' :: ('/' :: style ++ ']' :: after)))

/-- The closing tag of a style as plain text. -/
def plainClosing (style : List Char) : List Char := '[' :: ('/' :: style ++ [']'])

/-- What waits before the backslashes that are counted is all of a text that ends in none. -/
theorem eq_of_append_slashes {waiting : List Char} {slashes : Nat}
    (h : waiting ++ List.replicate slashes '\\' = cs) (hcs : cs.getLast? ≠ some '\\') :
    slashes = 0 ∧ waiting = cs := by
  obtain rfl : slashes = 0 := by
    by_contra hne
    obtain ⟨n, rfl⟩ := Nat.exists_eq_succ_of_ne_zero hne
    refine hcs ?_
    rw [← h, List.replicate_succ', ← List.append_assoc]
    simp
  exact ⟨rfl, by simpa using h⟩

/-- The pieces of markup up to its first tag, with no backslash before it. -/
theorem marks_tag {before body rest : List Char} (hbefore : '[' ∉ before ∧ '\\' ∉ before)
    (hbody : isTagBody body = true) :
    marks (before ++ '[' :: (body ++ ']' :: rest)) =
      [.plain before, .plain [], .tag body] ++ marks rest := by
  obtain ⟨waiting, slashes, hwaiting, -, hmarks⟩ :=
    (noTag_of_not_mem hbefore.1 ('[' :: (body ++ ']' :: rest))).exists_marksFrom [] (by simp) 0
  obtain ⟨rfl, rfl⟩ := eq_of_append_slashes (by simpa using hwaiting)
    fun hlast => hbefore.2 (List.mem_of_getLast? hlast)
  rw [marks, ← List.reverse_nil, hmarks, marksFrom_tag (tagAfterBracket?_of_isTagBody hbody _)]
  simp [marks]

/-- The pieces of markup with one styled stretch. Backslashes before the closing tag may make it
plain. -/
theorem exists_marks_styled {before inner after : List Char} (h : IsStyle style)
    (hbefore : '[' ∉ before ∧ '\\' ∉ before)
    (hinner : NoTag inner ('[' :: ('/' :: style ++ ']' :: after))) :
    ∃ waiting slashes, waiting ++ List.replicate slashes '\\' = inner ∧
      waiting.getLast? ≠ some '\\' ∧
      marks (styled style before inner after) =
        [.plain before, .plain [], .tag style, .plain waiting,
            .plain (List.replicate (slashes / 2) '\\')] ++
          (if slashes % 2 = 1 then .plain (plainClosing style) else .tag ('/' :: style)) ::
            marks after := by
  obtain ⟨waiting, slashes, hwaiting, hlast, hmarks⟩ := hinner.exists_marksFrom [] (by simp) 0
  refine ⟨waiting, slashes, by simpa using hwaiting, hlast, ?_⟩
  have hrest : marks (inner ++ '[' :: ('/' :: style ++ ']' :: after)) =
      marksFrom waiting.reverse slashes ('[' :: ('/' :: style ++ ']' :: after)) := hmarks
  rw [styled, marks_tag hbefore h.tag, hrest,
    marksFrom_tag (tagAfterBracket?_of_isTagBody h.closing _)]
  simp [marks, plainClosing]

@[simp] theorem shownPiece_nil : shownPiece [] = [] := by
  simp [shownPiece, withoutEscapes, withEmoji]

/-- The reading up to the closing tag of a styled stretch. -/
theorem foldlM_styled (h : IsStyle style) (before waiting : List Char) (n : Nat) :
    [Mark.plain before, .plain [], .tag style, .plain waiting,
        .plain (List.replicate n '\\')].foldlM Reading.take {} =
      .ok ⟨(shownPiece before ++ shownPiece waiting ++ shownPiece (List.replicate n '\\')).reverse,
        (shownPiece before ++ shownPiece waiting ++ shownPiece (List.replicate n '\\')).length,
        [openTag style (shownPiece before).length], []⟩ := by
  simp [List.foldlM_cons, Reading.take, h.tag_open, bind, Except.bind, pure, Except.pure,
    Nat.add_assoc]

/-- What is shown of markup with one styled stretch, with no backslash before its closing tag. -/
theorem shownOf_styled {before inner after : List Char} (h : IsStyle style)
    (hbefore : '[' ∉ before ∧ '\\' ∉ before)
    (hinner : NoTag inner ('[' :: ('/' :: style ++ ']' :: after)))
    (hlast : inner.getLast? ≠ some '\\') (hafter : NoTag after []) :
    shownOf (styled style before inner after) =
      .ok (shownPiece before ++ shownPiece inner ++ shownPiece after,
        [⟨(shownPiece before).length, (shownPiece before ++ shownPiece inner).length, style⟩]) := by
  obtain ⟨waiting, slashes, hwaiting, -, hmarks⟩ := exists_marks_styled h hbefore hinner
  obtain ⟨rfl, rfl⟩ := eq_of_append_slashes hwaiting hlast
  have hpieces : marks (styled style before waiting after) =
      [.plain before, .plain [], .tag style, .plain waiting, .plain (List.replicate 0 '\\')] ++
        [.tag ('/' :: style), .plain after] := by
    rw [hmarks, hafter.marks_eq]
    rfl
  rw [shownOf, hpieces, List.foldlM_append, foldlM_styled h]
  simp [Reading.take, h.tag_close, Reading.spans, bind, Except.bind, pure, Except.pure,
    Except.map]

/-- A tag that is not closed is not shown either; what follows it is in its style. -/
theorem shownOf_unclosed {before after : List Char} (h : IsStyle style)
    (hbefore : '[' ∉ before ∧ '\\' ∉ before) (hafter : NoTag after []) :
    shownOf (before ++ '[' :: (style ++ ']' :: after)) =
      .ok (shownPiece before ++ shownPiece after,
        [⟨(shownPiece before).length, (shownPiece before ++ shownPiece after).length, style⟩]) := by
  rw [shownOf, marks_tag hbefore h.tag, hafter.marks_eq]
  simp [List.foldlM_cons, Reading.take, h.tag_open, Reading.spans, openTag, OpenTag.style, bind,
    Except.bind, pure, Except.pure, Except.map]

/-! ## Texts with marks that stand alone -/

/-- Brackets, colons and backslashes stand before a space or at the end. -/
def Apart (cs : List Char) : Prop :=
  ∀ c after, c :: after <:+ cs → c ∈ ['[', ':', '\\'] → after = [] ∨ after.head? = some ' '

theorem Apart.of_cons (h : Apart (c :: cs)) : Apart cs :=
  fun d after hafter => h d after (hafter.trans (List.suffix_cons c cs))

theorem Apart.of_append (h : Apart (cs ++ ds)) : Apart cs := by
  intro c after hafter hc
  have hsuffix : c :: (after ++ ds) <:+ cs ++ ds := by
    obtain ⟨front, rfl⟩ := hafter
    exact ⟨front, by simp⟩
  cases after with
  | nil => exact .inl rfl
  | cons d after => simpa using h c _ hsuffix hc

theorem Apart.cons (h : Apart cs) (hc : c ∉ ['[', ':', '\\'] ∨ cs = [] ∨ cs.head? = some ' ') :
    Apart (c :: cs) := by
  intro d after hafter hd
  rcases List.suffix_cons_iff.mp hafter with heq | hafter
  · obtain ⟨rfl, rfl⟩ := List.cons.inj heq
    exact hc.resolve_left (not_not_intro hd)
  · exact h d after hafter hd

theorem apart_nil : Apart [] := fun _ _ hafter => by simp at hafter

theorem Apart.append_left (h : Apart ds) (hcs : ∀ c ∈ cs, c ∉ ['[', ':', '\\']) :
    Apart (cs ++ ds) := by
  induction cs with
  | nil => exact h
  | cons c cs ih =>
    obtain ⟨hc, hcs⟩ := List.forall_mem_cons.mp hcs
    exact (ih hcs).cons (.inl hc)

/-- Characters with spaces between them. -/
def spaced (cs : List Char) : List Char := [' '].intercalate (cs.map fun c => [c])

theorem spaced_cons_cons (c d : Char) (cs : List Char) :
    spaced (c :: d :: cs) = c :: ' ' :: spaced (d :: cs) := by
  simp [spaced, List.intercalate]

/-- Marks among characters with spaces between them stand alone. -/
theorem apart_spaced (cs : List Char) : Apart (spaced cs) := by
  induction cs with
  | nil => exact apart_nil
  | cons c cs ih =>
    cases cs with
    | nil => exact apart_nil.cons (.inr (.inl rfl))
    | cons d cs =>
      rw [spaced_cons_cons]
      exact (ih.cons (.inl (by decide))).cons (.inr (.inr rfl))

theorem count_spaced (h : c ≠ ' ') (cs : List Char) : (spaced cs).count c = cs.count c := by
  induction cs with
  | nil => rfl
  | cons d cs ih =>
    cases cs with
    | nil => rfl
    | cons e cs =>
      rw [spaced_cons_cons, List.count_cons, List.count_cons_of_ne (Ne.symm h), ih,
        ← List.count_cons]

theorem getLast?_spaced (cs : List Char) : (spaced cs).getLast? = cs.getLast? := by
  induction cs with
  | nil => rfl
  | cons c cs ih =>
    cases cs with
    | nil => rfl
    | cons d cs =>
      rw [spaced_cons_cons, List.getLast?_cons_cons, List.getLast?_cons, ih]
      simp [List.getLast?_cons]

theorem Apart.noTag (h : Apart cs) (hrest : tagAfterBracket? rest = none) : NoTag cs rest := by
  intro after hafter
  rcases h '[' after hafter (by simp) with rfl | hhead
  · exact hrest
  · obtain ⟨more, rfl⟩ := List.head?_eq_some_iff.mp hhead
    rfl

theorem Apart.withoutEscapes_eq (h : Apart cs) : withoutEscapes cs = cs := by
  induction cs with
  | nil => rw [withoutEscapes]
  | cons c cs ih =>
    rw [withoutEscapes, ih h.of_cons]
    rintro rest rfl rfl
    simpa using h '\\' _ (List.suffix_refl _) (by simp)

theorem Apart.withEmoji_eq (h : Apart cs) : withEmoji cs = cs := by
  refine withEmoji_eq_self_of_colons fun after hafter => ?_
  rcases h ':' after hafter (by simp) with rfl | hhead
  · rfl
  · obtain ⟨more, rfl⟩ := List.head?_eq_some_iff.mp hhead
    rfl

/-- A text whose marks stand alone is literal if the console drops none of its characters. -/
theorem Apart.literal (h : Apart cs) (hdropped : ∀ c ∈ cs, isDropped c = false) : Literal cs where
  noTag := h.noTag rfl
  noEscape := h.withoutEscapes_eq
  noEmoji := h.withEmoji_eq
  noDropped := hdropped

/-- Of a text whose marks stand alone all is shown that the console does not drop. -/
theorem Apart.shownPiece_eq (h : Apart cs) : shownPiece cs = cs.filter (!isDropped ·) := by
  rw [shownPiece, h.withoutEscapes_eq, h.withEmoji_eq]

/-- One backslash that stands alone before the closing tag of a styled stretch makes the tag
plain, and is not shown itself. -/
theorem shownOf_styled_escaped {before body : List Char} (h : IsStyle style)
    (hbefore : '[' ∉ before ∧ '\\' ∉ before) (hinner : Apart (body ++ ['\\'])) :
    shownOf (styled style before (body ++ ['\\']) []) =
      .ok (shownPiece before ++ shownPiece body ++ shownPiece (plainClosing style),
        [⟨(shownPiece before).length,
          (shownPiece before ++ shownPiece body ++ shownPiece (plainClosing style)).length,
          style⟩]) := by
  obtain ⟨waiting, slashes, hwaiting, hlast, hmarks⟩ :=
    exists_marks_styled h hbefore (hinner.noTag rfl)
  obtain ⟨n, rfl⟩ : ∃ n, slashes = n + 1 := by
    refine Nat.exists_eq_succ_of_ne_zero fun hzero => hlast ?_
    rw [show waiting = body ++ ['\\'] by simpa [hzero] using hwaiting]
    simp
  rw [List.replicate_succ', ← List.append_assoc, List.append_left_inj] at hwaiting
  -- Of two backslashes the first one would not stand alone.
  obtain ⟨rfl, rfl⟩ := eq_of_append_slashes hwaiting fun hslash => by
    obtain ⟨front, rfl⟩ := List.getLast?_eq_some_iff.mp hslash
    simpa using hinner '\\' ['\\'] ⟨front, by simp⟩ (by simp)
  have hpieces : marks (styled style before (waiting ++ ['\\']) []) =
      [.plain before, .plain [], .tag style, .plain waiting, .plain (List.replicate 0 '\\')] ++
        [.plain (plainClosing style), .plain []] := by
    rw [hmarks, (noTag_of_not_mem (by simp) [] : NoTag [] []).marks_eq]
    rfl
  rw [shownOf, hpieces, List.foldlM_append, foldlM_styled h]
  simp [Reading.take, Reading.spans, openTag, OpenTag.style, bind, Except.bind, pure, Except.pure,
    Except.map, Nat.add_assoc]

/-- What is shown of a stretch up to its closing tag, if its marks stand alone. -/
def shownStretch (style inner : List Char) : List Char :=
  if inner.getLast? = some '\\' then
    inner.dropLast.filter (!isDropped ·) ++ shownPiece (plainClosing style)
  else inner.filter (!isDropped ·)

/-- A styled stretch whose marks stand alone can be shown up to the end of the text. -/
theorem exists_shownOf_styled {before inner : List Char} (h : IsStyle style)
    (hbefore : '[' ∉ before ∧ '\\' ∉ before) (hinner : Apart inner) :
    ∃ spans, shownOf (styled style before inner []) =
        .ok (shownPiece before ++ shownStretch style inner, spans) ∧
      ∀ s ∈ spans, s.style = style := by
  unfold shownStretch
  split
  · rename_i hlast
    obtain ⟨body, rfl⟩ := List.getLast?_eq_some_iff.mp hlast
    have hshown := shownOf_styled_escaped h hbefore hinner
    rw [hinner.of_append.shownPiece_eq, List.append_assoc] at hshown
    rw [List.dropLast_concat]
    exact ⟨_, hshown, by simp⟩
  · rename_i hlast
    have hshown := shownOf_styled h hbefore (hinner.noTag rfl) hlast
      (noTag_of_not_mem List.not_mem_nil [])
    rw [hinner.shownPiece_eq, shownPiece_nil, List.append_nil] at hshown
    exact ⟨_, hshown, by simp⟩

end PenPlot.Console
